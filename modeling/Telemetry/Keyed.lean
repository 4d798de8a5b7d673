/-!
# Keyed tables

Every table of the configuration and of the generated files is keyed by text and kept in ascending
order of its keys, so that the same content always comes out in the same order. The order is by
code point, which is also the order of the UTF-8 bytes. The order of the entries is part of the
type, and a later entry for a key replaces an earlier one.
-/

namespace Telemetry

/-- A table from texts to values whose entries stand in strictly ascending order of their keys. -/
structure Keyed (α : Type u) where
  entries : List (String × α)
  ordered : entries.Pairwise (fun a b => a.1 < b.1)

namespace Keyed

variable {α : Type u}

/-- The table without entries. -/
def empty : Keyed α := ⟨[], .nil⟩

instance : Inhabited (Keyed α) := ⟨empty⟩

instance [BEq α] : BEq (Keyed α) := ⟨fun a b => a.entries == b.entries⟩

/-- Puts an entry at its place in an ascending list, where it replaces one with the same key. -/
def insertEntry (k : String) (v : α) : List (String × α) → List (String × α)
  | [] => [(k, v)]
  | e :: rest =>
    if k < e.1 then (k, v) :: e :: rest
    else if k = e.1 then (k, v) :: rest
    else e :: insertEntry k v rest

theorem mem_insertEntry {k : String} {v : α} {es : List (String × α)} {x : String × α}
    (h : x ∈ insertEntry k v es) : x = (k, v) ∨ x ∈ es := by
  induction es with
  | nil => simpa [insertEntry] using h
  | cons e rest ih =>
    rw [insertEntry] at h
    split at h
    · simpa using h
    · split at h
      · rcases List.mem_cons.1 h with h | h
        · exact .inl h
        · exact .inr (List.mem_cons_of_mem _ h)
      · rcases List.mem_cons.1 h with h | h
        · exact .inr (h ▸ List.mem_cons_self)
        · exact (ih h).imp_right (List.mem_cons_of_mem _)

theorem insertEntry_ordered (k : String) (v : α) {es : List (String × α)}
    (h : es.Pairwise (fun a b => a.1 < b.1)) :
    (insertEntry k v es).Pairwise (fun a b => a.1 < b.1) := by
  induction es with
  | nil => simp [insertEntry]
  | cons e rest ih =>
    have hr := List.pairwise_cons.1 h
    rw [insertEntry]
    split
    · rename_i hk
      refine List.pairwise_cons.2 ⟨fun x hx => ?_, h⟩
      rcases List.mem_cons.1 hx with rfl | hx
      · exact hk
      · exact String.lt_trans hk (hr.1 x hx)
    · rename_i hk
      split
      · rename_i he
        exact List.pairwise_cons.2 ⟨fun x hx => he ▸ hr.1 x hx, hr.2⟩
      · rename_i he
        refine List.pairwise_cons.2 ⟨fun x hx => ?_, ih hr.2⟩
        rcases mem_insertEntry hx with rfl | hx
        · rcases Std.lt_trichotomy k e.1 with hlt | heq | hgt
          · exact absurd hlt hk
          · exact absurd heq he
          · exact hgt
        · exact hr.1 x hx

/-- Sets the value of a key. -/
def insert (t : Keyed α) (k : String) (v : α) : Keyed α :=
  ⟨insertEntry k v t.entries, insertEntry_ordered k v t.ordered⟩

/-- The table of a list of entries; of several entries with one key the last one counts. -/
def ofList (es : List (String × α)) : Keyed α :=
  es.foldl (fun t e => t.insert e.1 e.2) empty

/-- The value of a key. -/
def get? (t : Keyed α) (k : String) : Option α :=
  t.entries.lookup k

/-- Whether a key has a value. -/
def contains (t : Keyed α) (k : String) : Bool :=
  (t.get? k).isSome

/-- The keys in ascending order. -/
def keys (t : Keyed α) : List String :=
  t.entries.map (·.1)

/-- The values in the order of their keys. -/
def values (t : Keyed α) : List α :=
  t.entries.map (·.2)

/-- The number of entries. -/
def size (t : Keyed α) : Nat :=
  t.entries.length

/-- Whether there is no entry. -/
def isEmpty (t : Keyed α) : Bool :=
  t.entries.isEmpty

end Keyed

end Telemetry
