import Asm16.Files.Store
import Mathlib.Tactic

set_option autoImplicit false

namespace Asm16

theorem exists_of_bind_ok {ε α β : Type} {x : Except ε α} {f : α → Except ε β} {b : β}
    (succeeded : x.bind f = .ok b) : ∃ a, x = .ok a ∧ f a = .ok b := by
  cases x with
  | error e => cases succeeded
  | ok a => exact ⟨a, rfl, succeeded⟩

theorem exists_of_map_ok {ε α β : Type} {x : Except ε α} {f : α → β} {b : β}
    (succeeded : x.map f = .ok b) : ∃ a, x = .ok a ∧ f a = b := by
  cases x with
  | error e => cases succeeded
  | ok a => exact ⟨a, rfl, Except.ok.inj succeeded⟩

namespace Store

@[simp] theorem entry_set_same (s : Store) (place : Location) (entry : Entry) :
    Store.entry? (s.set place entry) place = some entry := by
  simp [set, entry?]

theorem find_filter_other (entries : List (Location × Entry)) (place other : Location)
    (apart : other ≠ place) :
    (entries.filter fun e => e.1 != place).find? (fun e => e.1 == other) =
      entries.find? fun e => e.1 == other := by
  induction entries with
  | nil => rfl
  | cons e rest ih =>
    by_cases here : e.1 = place
    · simp [here, apart.symm, ih]
    · by_cases found : e.1 = other <;> simp [here, found, apart, ih]

theorem entry_set_other (s : Store) (place other : Location) (entry : Entry)
    (apart : other ≠ place) : Store.entry? (s.set place entry) other = s.entry? other := by
  simp [set, entry?, apart.symm, find_filter_other _ _ _ apart]

structure SameBut (place : Location) (before after : Store) : Prop where
  home : after.home = before.home
  refusals : after.refusals = before.refusals
  entries : ∀ other, other ≠ place → after.entry? other = before.entry? other

theorem SameBut.trans {place : Location} {before between after : Store}
    (first : SameBut place before between) (second : SameBut place between after) :
    SameBut place before after where
  home := second.home.trans first.home
  refusals := second.refusals.trans first.refusals
  entries other apart := (second.entries other apart).trans (first.entries other apart)

theorem set_sameBut (s : Store) (place : Location) (entry : Entry) :
    SameBut place s (s.set place entry) where
  home := rfl
  refusals := rfl
  entries other apart := s.entry_set_other place other entry apart

theorem create_eq_set (s created : Store) (text : String) (target : Location)
    (made : s.create text = .ok (target, created)) :
    ∃ entry, emptied (s.entry? target) = .ok entry ∧ created = s.set target entry := by
  obtain ⟨p, -, inPath⟩ := exists_of_bind_ok made
  obtain ⟨here, -, named⟩ := exists_of_bind_ok inPath
  split at named
  · cases named
  · split at named
    · cases named
    · obtain ⟨-, -, inPlace⟩ := exists_of_bind_ok named
      obtain ⟨entry, empty, allowed⟩ := exists_of_bind_ok inPlace
      obtain ⟨-, -, same⟩ := exists_of_map_ok allowed
      cases same
      exact ⟨entry, empty, rfl⟩

-- A place where a file is or can be made.
def OffersFile (s : Store) (place : Location) : Prop :=
  ∀ entry, s.entry? place = some entry → ∃ content, entry = .file content

theorem create_file (s created : Store) (text : String) (target : Location)
    (offers : s.OffersFile target) (made : s.create text = .ok (target, created)) :
    created = s.set target (.file []) := by
  obtain ⟨entry, empty, rfl⟩ := create_eq_set s created text target made
  cases found : s.entry? target with
  | none =>
    rw [found] at empty
    cases empty
    rfl
  | some old =>
    obtain ⟨content, rfl⟩ := offers old found
    rw [found] at empty
    cases empty
    rfl

end Store

end Asm16
