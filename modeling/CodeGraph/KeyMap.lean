/-!
# Maps keyed by text

A `KeyMap α` holds at most one value per key, its entries sorted by key in code-point order,
which is also the byte order of the keys' UTF-8 text. The map carries the order of its keys, so
every map built is sorted, and the order of a listing is a property of the map, not of the order
of insertion: two maps built from the same key-value pairs list them alike.
-/

namespace CodeGraph

/-- A map from text keys to values: its entries, their keys strictly increasing. -/
structure KeyMap (α : Type) where
  entries : List (String × α)
  sorted : (entries.map (·.1)).Pairwise (· < ·)

namespace KeyMap

variable {α : Type}

def putSorted (k : String) (v : α) : List (String × α) → List (String × α)
  | [] => [(k, v)]
  | (k', v') :: rest =>
    if k == k' then (k, v) :: rest
    else if k < k' then (k, v) :: (k', v') :: rest
    else (k', v') :: putSorted k v rest

theorem mem_keys_putSorted {k k' : String} {v : α} {l : List (String × α)} :
    k' ∈ (putSorted k v l).map (·.1) ↔ k' = k ∨ k' ∈ l.map (·.1) := by
  induction l with
  | nil => simp [putSorted]
  | cons e l ih =>
    obtain ⟨k'', v''⟩ := e
    simp only [putSorted]
    split
    · next h =>
      simp only [beq_iff_eq] at h
      subst h
      simp
    · split
      · simp
      · simp only [List.map_cons, List.mem_cons, ih]
        exact or_left_comm

theorem sorted_putSorted {k : String} {v : α} {l : List (String × α)}
    (h : (l.map (·.1)).Pairwise (· < ·)) : ((putSorted k v l).map (·.1)).Pairwise (· < ·) := by
  induction l with
  | nil => simp [putSorted]
  | cons e l ih =>
    obtain ⟨k'', v''⟩ := e
    simp only [List.map_cons, List.pairwise_cons] at h
    simp only [putSorted]
    split
    · next h1 =>
      simp only [beq_iff_eq] at h1
      subst h1
      simpa using h
    · split
      · next h2 =>
        simp only [List.map_cons, List.pairwise_cons, List.mem_cons]
        refine ⟨?_, h.1, h.2⟩
        rintro a (rfl | ha)
        · exact h2
        · exact String.lt_trans h2 (h.1 a ha)
      · next h1 h2 =>
        -- neither equal nor below: the key goes after `k''`
        have hne : k ≠ k'' := by simpa using h1
        have hlt : k'' < k :=
          String.not_le.mp fun hle => hne (String.le_antisymm hle (String.not_lt.mp h2))
        simp only [List.map_cons, List.pairwise_cons]
        refine ⟨?_, ih h.2⟩
        intro a ha
        rcases mem_keys_putSorted.mp ha with rfl | ha
        · exact hlt
        · exact h.1 a ha

def empty : KeyMap α := ⟨[], .nil⟩

instance : Inhabited (KeyMap α) := ⟨empty⟩

instance [BEq α] : BEq (KeyMap α) := ⟨fun m n => m.entries == n.entries⟩

instance [Repr α] : Repr (KeyMap α) := ⟨fun m prec => reprPrec m.entries prec⟩

def insert (m : KeyMap α) (k : String) (v : α) : KeyMap α :=
  ⟨putSorted k v m.entries, sorted_putSorted m.sorted⟩

def filter (m : KeyMap α) (p : String × α → Bool) : KeyMap α :=
  ⟨m.entries.filter p, m.sorted.sublist (List.filter_sublist.map _)⟩

def get? (m : KeyMap α) (k : String) : Option α :=
  (m.entries.find? (·.1 == k)).map (·.2)

def contains (m : KeyMap α) (k : String) : Bool :=
  m.entries.any (·.1 == k)

def insertNew (m : KeyMap α) (k : String) (v : α) : KeyMap α :=
  if m.contains k then m else m.insert k v

def alter (m : KeyMap α) (k : String) (dflt : α) (f : α → α) : KeyMap α :=
  m.insert k (f ((m.get? k).getD dflt))

def size (m : KeyMap α) : Nat := m.entries.length

def keys (m : KeyMap α) : List String := m.entries.map (·.1)

def values (m : KeyMap α) : List α := m.entries.map (·.2)

def ofList (pairs : List (String × α)) : KeyMap α :=
  pairs.foldl (fun m (k, v) => m.insert k v) empty

end KeyMap

end CodeGraph
