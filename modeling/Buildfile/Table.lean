/-!
# Tables

A table is a finite map that remembers the order in which its keys were first set. Setting a key
again keeps its place; erasing a key and setting it again moves it to the end.

Each operation has one lemma about look-up and one about the keys, and nothing else about a table
needs its representation.
-/

namespace Buildfile

/-- A finite map with its keys in the order in which they were first set. -/
structure Table (κ : Type) (ν : Type) where
  entries : List (κ × ν) := []
  deriving DecidableEq, Repr, Inhabited

namespace Table

variable {κ ν : Type} [DecidableEq κ]

/-- The value under a key. -/
def get? (t : Table κ ν) (k : κ) : Option ν :=
  (t.entries.find? (·.1 = k)).map (·.2)

/-- The keys in their order. -/
def keys (t : Table κ ν) : List κ := t.entries.map (·.1)

/-- The entries with `v` under `k`: in the place of the old value, or at the end. -/
def setIn (k : κ) (v : ν) : List (κ × ν) → List (κ × ν)
  | [] => [(k, v)]
  | e :: es => if e.1 = k then (k, v) :: es else e :: setIn k v es

/-- The table with `v` under `k`. -/
def set (t : Table κ ν) (k : κ) (v : ν) : Table κ ν := ⟨setIn k v t.entries⟩

/-- The table without `k`. -/
def erase (t : Table κ ν) (k : κ) : Table κ ν := ⟨t.entries.filter (·.1 ≠ k)⟩

/-- The table of a list of entries, of which a later one replaces an earlier one. -/
def ofList (es : List (κ × ν)) : Table κ ν := es.foldl (fun t e => t.set e.1 e.2) {}

/-! ## Look-up -/

@[simp] theorem get?_empty (k : κ) : ({} : Table κ ν).get? k = none := rfl

theorem get?_set (t : Table κ ν) (k j : κ) (v : ν) :
    (t.set k v).get? j = if j = k then some v else t.get? j := by
  obtain ⟨es⟩ := t
  induction es with
  | nil => by_cases h : j = k <;> simp [get?, set, setIn, h, eq_comm]
  | cons e es ih =>
    simp only [get?, set, setIn] at ih ⊢
    by_cases he : e.1 = k <;> by_cases hj : j = k
    · simp [he, hj]
    · simp [he, hj, Ne.symm hj]
    · subst hj; simpa [he] using ih
    · by_cases hej : e.1 = j
      · simp [hej, hj]
      · simpa [he, hej, hj] using ih

theorem get?_erase (t : Table κ ν) (k j : κ) :
    (t.erase k).get? j = if j = k then none else t.get? j := by
  simp only [get?, erase, List.find?_filter]
  by_cases h : j = k
  · subst h
    rw [if_pos rfl, Option.map_eq_none_iff, List.find?_eq_none]
    simp
  · rw [if_neg h]
    congr 2
    funext e
    by_cases he : e.1 = j <;> simp [he, h]

/-- Erasing a key that is not there changes nothing. -/
theorem erase_of_get?_eq_none {t : Table κ ν} {k : κ} (h : t.get? k = none) : t.erase k = t := by
  rw [get?, Option.map_eq_none_iff, List.find?_eq_none] at h
  rw [erase, List.filter_eq_self.2 fun e he => by simpa using h e he]

/-! ## Keys -/

theorem mem_keys_iff (t : Table κ ν) (k : κ) : k ∈ t.keys ↔ ∃ v, t.get? k = some v := by
  obtain ⟨es⟩ := t
  induction es with
  | nil => simp [keys, get?]
  | cons e es ih =>
    simp only [keys, get?] at ih ⊢
    by_cases he : e.1 = k
    · simp [he]
    · simp [he, ih, Ne.symm he]

theorem eq_empty_of_get? {t : Table κ ν} (h : ∀ k, t.get? k = none) : t = {} := by
  obtain ⟨es⟩ := t
  cases es with
  | nil => rfl
  | cons e es => simpa [get?] using h e.1

theorem keys_set_of_mem {t : Table κ ν} {k : κ} (v : ν) (h : k ∈ t.keys) : (t.set k v).keys = t.keys := by
  obtain ⟨es⟩ := t
  simp only [keys, set] at h ⊢
  induction es with
  | nil => simp at h
  | cons e es ih =>
    simp only [setIn]
    split
    · next he => simp [he]
    · next he =>
      have : k ∈ es.map (·.1) := by
        rcases List.mem_cons.1 h with h | h
        · exact absurd h.symm he
        · exact h
      simp [ih this]

theorem keys_set_of_not_mem {t : Table κ ν} {k : κ} (v : ν) (h : k ∉ t.keys) :
    (t.set k v).keys = t.keys ++ [k] := by
  obtain ⟨es⟩ := t
  simp only [keys, set] at h ⊢
  induction es with
  | nil => rfl
  | cons e es ih =>
    simp only [List.map_cons, List.mem_cons, not_or] at h
    simp [setIn, Ne.symm h.1, ih h.2]

end Table

end Buildfile
