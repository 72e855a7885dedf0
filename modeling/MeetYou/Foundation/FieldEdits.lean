import MeetYou.Foundation.Dict

/-!
# Edits of a dictionary that may be refused

An edit writes to a dictionary step by step and may be refused on the way; what it wrote by then
stays written. `Keeps` says of an edit that it leaves the value under one key as it is, whether it
is refused or not; it is proved along the steps of the edit. `KeepsAt` says it of the edit of one
dictionary.
-/

/-- An edit of a dictionary. -/
def Edit (κ ν ε α : Type) : Type := Dict κ ν → Except ε α × Dict κ ν

namespace Edit

variable {κ ν ε α β : Type}

/-- Go on behind an edit, unless it was refused. -/
def andThen (edit : Edit κ ν ε α) (rest : α → Edit κ ν ε β) : Edit κ ν ε β := fun dict =>
  match edit dict with
  | (.ok value, after) => rest value after
  | (.error error, after) => (.error error, after)

instance : Monad (Edit κ ν ε) where
  pure value := fun dict => (.ok value, dict)
  bind := andThen

/-- Refuse to go on. -/
def refuse (error : ε) : Edit κ ν ε α := fun dict => (.error error, dict)

/-- The dictionary as it is now. -/
def now : Edit κ ν ε (Dict κ ν) := fun dict => (.ok dict, dict)

/-- What a computation beside the dictionary returns; its refusal refuses the edit. -/
def lift (computed : Except ε α) : Edit κ ν ε α := fun dict => (computed, dict)

/-- The dictionary an edit leaves. -/
def leaves (edit : Edit κ ν ε α) (dict : Dict κ ν) : Dict κ ν := (edit dict).2

@[simp] theorem pure_apply (value : α) (dict : Dict κ ν) :
    (pure value : Edit κ ν ε α) dict = (.ok value, dict) := rfl

@[simp] theorem refuse_apply (error : ε) (dict : Dict κ ν) :
    (refuse error : Edit κ ν ε α) dict = (.error error, dict) := rfl

@[simp] theorem now_apply (dict : Dict κ ν) :
    (now : Edit κ ν ε (Dict κ ν)) dict = (.ok dict, dict) := rfl

@[simp] theorem lift_apply (computed : Except ε α) (dict : Dict κ ν) :
    (lift computed : Edit κ ν ε α) dict = (computed, dict) := rfl

theorem bind_apply (edit : Edit κ ν ε α) (rest : α → Edit κ ν ε β) (dict : Dict κ ν) :
    (edit >>= rest) dict =
      match edit dict with
      | (.ok value, after) => rest value after
      | (.error error, after) => (.error error, after) := rfl

/-- A computation that ends well behind another one. -/
theorem bind_ok {first : Except ε α} {rest : α → Except ε β} {result : β}
    (done : first.bind rest = .ok result) : ∃ value, first = .ok value ∧
      rest value = .ok result := by
  cases first with
  | error raised => cases done
  | ok value => exact ⟨value, rfl, done⟩

/-- Two edits in a row that are not refused. -/
theorem ok_of_bind {edit : Edit κ ν ε α} {rest : α → Edit κ ν ε β} {dict final : Dict κ ν}
    {result : β} (done : (edit >>= rest) dict = (.ok result, final)) :
    ∃ value after, edit dict = (.ok value, after) ∧ rest value after = (.ok result, final) := by
  rw [bind_apply] at done
  split at done
  · next value after first => exact ⟨value, after, first, done⟩
  · next error after refused => cases (Prod.mk.inj done).1

variable [DecidableEq κ]

/-- Write a value. -/
def write (key : κ) (value : ν) : Edit κ ν ε Unit := fun dict => (.ok (), dict.set key value)

@[simp] theorem write_apply (key : κ) (value : ν) (dict : Dict κ ν) :
    (write key value : Edit κ ν ε Unit) dict = (.ok (), dict.set key value) := rfl

/-- The edit leaves the value under the key as it is. -/
def Keeps (key : κ) (edit : Edit κ ν ε α) : Prop :=
  ∀ dict, (edit.leaves dict).get key = dict.get key

theorem keeps_pure (key : κ) (value : α) : Keeps key (pure value : Edit κ ν ε α) := fun _ => rfl

theorem keeps_refuse (key : κ) (error : ε) : Keeps key (refuse error : Edit κ ν ε α) :=
  fun _ => rfl

theorem keeps_now (key : κ) : Keeps key (now : Edit κ ν ε (Dict κ ν)) := fun _ => rfl

theorem keeps_lift (key : κ) (computed : Except ε α) :
    Keeps key (lift computed : Edit κ ν ε α) := fun _ => rfl

theorem keeps_write {key written : κ} (different : written ≠ key) (value : ν) :
    Keeps key (write written value : Edit κ ν ε Unit) :=
  fun dict => Dict.get_set_ne dict value different

/-- The edit leaves the value under the key of this dictionary as it is. -/
def KeepsAt (key : κ) (edit : Edit κ ν ε α) (dict : Dict κ ν) : Prop :=
  (edit.leaves dict).get key = dict.get key

theorem keepsAt_bind {key : κ} {edit : Edit κ ν ε α} {rest : α → Edit κ ν ε β} {dict : Dict κ ν}
    (first : KeepsAt key edit dict)
    (second : ∀ value after, edit dict = (.ok value, after) → KeepsAt key (rest value) after) :
    KeepsAt key (edit >>= rest) dict := by
  rw [KeepsAt, leaves] at first
  rw [KeepsAt, leaves, bind_apply]
  split
  · next value after done =>
    rw [done] at first
    exact (second value after done).trans first
  · next error after refused =>
    rw [refused] at first
    exact first

theorem keeps_bind {key : κ} {edit : Edit κ ν ε α} {rest : α → Edit κ ν ε β}
    (first : Keeps key edit) (second : ∀ value, Keeps key (rest value)) :
    Keeps key (edit >>= rest) :=
  fun dict => keepsAt_bind (first dict) fun value after _ => second value after

end Edit
