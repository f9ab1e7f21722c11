import Asm16.Job.Settings
import Asm16.Main
import Asm16.Proofs.Layout
import Asm16.Proofs.Lines
import Asm16.Proofs.Runs
import Asm16.Proofs.TrayRun
import Asm16.Proofs.Rows
import Asm16.Proofs.Assembly
import Asm16.Proofs.Tokens
import Asm16.Proofs.Immediates
import Asm16.Proofs.Defects
import Asm16.Proofs.Shorthands
import Asm16.Proofs.Decoding
import Asm16.Proofs.CheckedImmediates
import Asm16.Proofs.CheckedLines
import Asm16.Proofs.Spools
import Asm16.Proofs.Stores
import Asm16.Proofs.Jobs
import Asm16.Proofs.DefectSets
import Asm16.Proofs.SingleLines
import Asm16.Proofs.Sessions
import Asm16.Proofs.Numerals
import Asm16.Proofs.Grammar
import Asm16.Proofs.Repairs
import Asm16.Proofs.RowFields
import Asm16.Proofs.Edits
import Asm16.Proofs.CommaLines
import Asm16.Proofs.TextRows
import Asm16.Proofs.FieldLists
import Asm16.Proofs.AdmittedFields
import Asm16.Proofs.BitTexts
import Asm16.Proofs.JsonRows
import Asm16.Proofs.LineLogs
