import Telemetry.Proofs.Registry
import Telemetry.Proofs.SectionFile
import Telemetry.Section.Endpoint

/-!
# Values that hold several parts

Some values of sections are made of several parts of a configuration, with a separator between them
and nothing that would tell a separator from the same character in a part. This file reads such
values again, and says when the parts come back.

* **`Packed`** — the parts of a value; **`Packed.encode`** and **`Packed.read`** — its text, and the
  way back, which depends on the key.
* **`Packed.read_encode_iff`** — a value is read back exactly if no part has a separator that ends
  it.
* **`Packs`** — sections have the values of some parts, in order. The rules compose along lists of
  sections, and there is one for each way to make a section.
* **`Packs.readsBack_iff`** — what is packed in sections is read back exactly if all parts can be
  told apart.
-/

namespace Telemetry

/-! ## Splitting and cutting -/

namespace Text

/-- The parts between all separators. -/
def split (d : Char) (s : String) : List String :=
  (s.toList.splitOn d).map String.ofList

/-- The parts before and behind the first separator. -/
def cut (d : Char) (s : String) : Option (String × String) :=
  match s.toList.dropWhile (· ≠ d) with
  | [] => none
  | _ :: rest => some (String.ofList (s.toList.takeWhile (· ≠ d)), String.ofList rest)

variable {sep : String} {d : Char} (hs : sep.toList = [d])
include hs

theorem toList_join (parts : List String) :
    (join sep parts).toList = [d].intercalate (parts.map String.toList) := by
  induction parts with
  | nil => rfl
  | cons a parts ih =>
      cases parts with
      | nil => exact List.intercalate_singleton.symm
      | cons b parts =>
          have hrest : join sep (a :: b :: parts) = a ++ sep ++ join sep (b :: parts) := rfl
          rw [hrest, toList_append_sep hs, ih, List.map_cons, List.map_cons, List.map_cons,
            List.intercalate_cons_cons, List.append_assoc]
          rfl

/-- What is split and joined again is the same text. -/
theorem join_split (s : String) : join sep (split d s) = s := by
  have hparts : ((s.toList.splitOn d).map String.ofList).map String.toList = s.toList.splitOn d := by
    rw [List.map_map]
    exact List.map_id'' (fun _ => String.toList_ofList) _
  refine String.toList_injective ?_
  rw [toList_join hs, split, hparts, List.intercalate_splitOn]

/-- **Joined texts are split into themselves** exactly if there are some and none has the
separator. -/
theorem split_join_iff (parts : List String) :
    split d (join sep parts) = parts ↔ parts ≠ [] ∧ ∀ p ∈ parts, d ∉ p.toList := by
  constructor
  · intro h
    rw [← h]
    refine ⟨?_, ?_⟩
    · rw [split, Ne, List.map_eq_nil_iff]
      exact List.splitOn_ne_nil d _
    · refine List.forall_mem_map.mpr fun part hpart => ?_
      rw [String.toList_ofList]
      exact notMem_of_mem_splitOn hpart
  · rintro ⟨hne, hparts⟩
    rw [split, toList_join hs, List.splitOn_intercalate d (List.forall_mem_map.mpr hparts)
      (by simpa using hne), List.map_map]
    exact List.map_id'' (fun _ => String.ofList_toList) _

/-- **Two texts are cut apart** exactly if the first one does not have the separator. -/
theorem cut_append_iff {a b : String} : cut d (a ++ sep ++ b) = some (a, b) ↔ d ∉ a.toList := by
  rw [cut, toList_append_sep hs]
  constructor
  · intro h
    split at h
    · exact nomatch h
    · rw [← (Prod.mk.inj (Option.some.inj h)).1, String.toList_ofList]
      intro hm
      simpa using List.mem_takeWhile_imp hm
  · intro ha
    rw [List.dropWhile_append_of_pos (decide_ne_of_notMem ha),
      List.dropWhile_cons_of_neg (by simp), takeWhile_ne_append ha, String.ofList_toList]
    show some (a, String.ofList b.toList) = some (a, b)
    rw [String.ofList_toList]

end Text

/-! ## Parts that share a value -/

/-- Parts of a configuration that stand in one value of a section. -/
inductive Packed where
  /-- The members of a list, with commas between them. -/
  | list (parts : List String)
  /-- A field and what it is compared with, set to or moved to, with a space between them. -/
  | pair (field operand : String)
  /-- Fields and their types, with a colon in each and spaces between them. -/
  | types (table : List (String × String))
  deriving DecidableEq

namespace Packed

/-- The text in the section. -/
def encode : Packed → String
  | list parts => Text.join "," parts
  | pair field operand => field ++ " " ++ operand
  | types table => Text.join " " (table.map fun (field, type) => field ++ ":" ++ type)

/-- The keys of inputs whose values are lists. -/
def listKeys : List String := ["Path", "Exclude_Path", "Channels"]

/-- The keys of filters whose values are pairs. -/
def pairKeys : List String := ["Exclude", "Set", "Add", "Rename", "Hard_copy", "Hard_rename"]

/-- The key of parsers whose value is a table of types. -/
def typesKey : String := "Types"

/-- All keys whose values have several parts. -/
def keys : List String := typesKey :: listKeys ++ pairKeys

/-- A key is one for such parts. -/
def Fits (key : String) : Packed → Prop
  | list _ => key ∈ listKeys
  | pair _ _ => key ∈ pairKeys
  | types _ => key = typesKey

/-- The kind of the sections that have a key. -/
def kindOf (key : String) : SectionKind :=
  if key ∈ listKeys then .input else if key = typesKey then .parser else .filter

/-- A field and its type. -/
def readType (text : String) : Option (String × String) :=
  match Text.split ':' text with
  | [field, type] => some (field, type)
  | _ => none

/-- Reads the value of a key. -/
def read (key value : String) : Option Packed :=
  if key ∈ listKeys then some (list (Text.split ',' value))
  else if key = typesKey then ((Text.split ' ' value).mapM readType).map types
  else (Text.cut ' ' value).map fun (field, operand) => pair field operand

/-- No part has a separator that ends it. -/
def Separable : Packed → Prop
  | list parts => parts ≠ [] ∧ ∀ part ∈ parts, ',' ∉ part.toList
  | pair field _ => ' ' ∉ field.toList
  | types table => table ≠ [] ∧ ∀ e ∈ table, (' ' ∉ e.1.toList ∧ ' ' ∉ e.2.toList) ∧
      ':' ∉ e.1.toList ∧ ':' ∉ e.2.toList

instance : DecidablePred Separable
  | list parts => inferInstanceAs (Decidable (parts ≠ [] ∧ ∀ part ∈ parts, ',' ∉ part.toList))
  | pair field _ => inferInstanceAs (Decidable (' ' ∉ field.toList))
  | types table => inferInstanceAs (Decidable (table ≠ [] ∧ ∀ e ∈ table,
      (' ' ∉ e.1.toList ∧ ' ' ∉ e.2.toList) ∧ ':' ∉ e.1.toList ∧ ':' ∉ e.2.toList))

/-- A field and its type are read back if neither has a colon. -/
theorem readType_eq_some {text : String} {e : String × String} :
    readType text = some e ↔ text = e.1 ++ ":" ++ e.2 ∧ ':' ∉ e.1.toList ∧ ':' ∉ e.2.toList := by
  obtain ⟨field, type⟩ := e
  have hparts : readType text = some (field, type) ↔ Text.split ':' text = [field, type] := by
    rw [readType]
    constructor
    · intro h
      split at h
      · rename_i hsplit
        rw [hsplit]
        obtain ⟨rfl, rfl⟩ := Prod.mk.inj (Option.some.inj h)
        rfl
      · exact nomatch h
    · intro h
      rw [h]
  have hcolon : ":".toList = [':'] := rfl
  have hiff := Text.split_join_iff hcolon [field, type]
  rw [hparts]
  constructor
  · intro h
    have htext := Text.join_split hcolon text
    rw [h] at htext
    rw [← htext] at h
    exact ⟨htext.symm, by simpa using hiff.mp h⟩
  · rintro ⟨rfl, hfree⟩
    exact hiff.mpr (by simpa using hfree)

/-- The texts of fields and types are those of a table without colons. -/
theorem mapM_readType_eq_some {texts : List String} {table : List (String × String)} :
    texts.mapM readType = some table ↔ table.map (fun e => e.1 ++ ":" ++ e.2) = texts ∧
      ∀ e ∈ table, ':' ∉ e.1.toList ∧ ':' ∉ e.2.toList := by
  rw [SectionFile.mapM_eq_some]
  constructor
  · intro h
    induction h with
    | nil => exact ⟨rfl, List.forall_mem_nil _⟩
    | cons he _ ih =>
        obtain ⟨rfl, hcolon⟩ := readType_eq_some.mp he
        exact ⟨by rw [List.map_cons, ih.1], List.forall_mem_cons.mpr ⟨hcolon, ih.2⟩⟩
  · rintro ⟨rfl, hcolon⟩
    rw [List.forall₂_map_left_iff, List.forall₂_same]
    exact fun e he => readType_eq_some.mpr ⟨rfl, hcolon e he⟩

/-- A table of types is read back exactly if all fields and types are free of separators. -/
theorem mapM_readType_iff {table : List (String × String)} :
    (Text.split ' ' (types table).encode).mapM readType = some table ↔ (types table).Separable := by
  have hspace : ∀ e : String × String, ' ' ∉ (e.1 ++ ":" ++ e.2).toList ↔
      ' ' ∉ e.1.toList ∧ ' ' ∉ e.2.toList := by
    intro e
    simp
  rw [mapM_readType_eq_some, eq_comm, encode, Text.split_join_iff rfl, List.forall_mem_map, Ne,
    List.map_eq_nil_iff, Separable, and_assoc, ← forall₂_and]
  simp only [hspace]

/-- **A value is read back** exactly if no part has a separator that ends it. -/
theorem read_encode_iff {key : String} {x : Packed} (hx : x.Fits key) :
    read key x.encode = some x ↔ x.Separable := by
  cases x with
  | list parts =>
      have hkey : key ∈ listKeys := hx
      rw [read, if_pos hkey, Option.some_inj, list.injEq]
      exact Text.split_join_iff rfl parts
  | pair field operand =>
      have hkey : key ∉ listKeys ∧ key ≠ typesKey := by
        revert key
        show ∀ key ∈ pairKeys, _
        decide
      rw [read, if_neg hkey.1, if_neg hkey.2]
      have hspace : " ".toList = [' '] := rfl
      rw [Separable, ← Text.cut_append_iff hspace (b := operand), Option.map_eq_some_iff]
      constructor
      · rintro ⟨⟨field', operand'⟩, hcut, he⟩
        obtain ⟨rfl, rfl⟩ := pair.inj he
        exact hcut
      · intro hcut
        exact ⟨_, hcut, rfl⟩
  | types table =>
      obtain rfl : key = typesKey := hx
      have hlist : typesKey ∉ listKeys := by decide
      rw [read, if_neg hlist, if_pos rfl, ← mapM_readType_iff, Option.map_eq_some_iff]
      constructor
      · rintro ⟨table', hread, he⟩
        rw [hread, types.inj he]
      · intro hread
        exact ⟨_, hread, rfl⟩

/-- The values of a key in the sections of its kind, in order. -/
def valuesOf (key : String) (ss : List Section) : List String :=
  Section.valuesIn [kindOf key] key ss

/-- Those of some parts that stand under a key, in order. -/
def partsOf (key : String) (xs : List (String × Packed)) : List Packed :=
  (xs.filter (·.1 = key)).map (·.2)

@[simp] theorem partsOf_nil (key : String) : partsOf key [] = [] := rfl

@[simp] theorem partsOf_append (key : String) (xs ys : List (String × Packed)) :
    partsOf key (xs ++ ys) = partsOf key xs ++ partsOf key ys := by
  rw [partsOf, List.filter_append, List.map_append]
  rfl

theorem partsOf_cons (key : String) (x : String × Packed) (xs : List (String × Packed)) :
    partsOf key (x :: xs) = (if x.1 = key then [x.2] else []) ++ partsOf key xs := by
  rw [partsOf, List.filter_cons]
  by_cases h : x.1 = key <;> simp [h, partsOf]

/-- **What is packed in sections is read back** under each key, in order. -/
def ReadsBack (ss : List Section) (xs : List (String × Packed)) : Prop :=
  ∀ key ∈ keys, (valuesOf key ss).map (read key) = (partsOf key xs).map some

end Packed

/-! ## Sections and their parts -/

/-- Sections have the values of some parts with their keys, in order. -/
structure Packs (ss : List Section) (xs : List (String × Packed)) : Prop where
  fits : ∀ x ∈ xs, x.2.Fits x.1
  values : ∀ key ∈ Packed.keys, Packed.valuesOf key ss = (Packed.partsOf key xs).map Packed.encode

namespace Packs

open Packed (keys listKeys pairKeys typesKey kindOf valuesOf partsOf Fits)

theorem nil : Packs [] [] := ⟨List.forall_mem_nil _, fun _ _ => rfl⟩

/-- Sections one behind the other have the parts of both. -/
theorem append {ss ss' : List Section} {xs ys : List (String × Packed)} (h : Packs ss xs)
    (h' : Packs ss' ys) : Packs (ss ++ ss') (xs ++ ys) := by
  refine ⟨List.forall_mem_append.mpr ⟨h.fits, h'.fits⟩, fun key hkey => ?_⟩
  have hss : valuesOf key (ss ++ ss') = valuesOf key ss ++ valuesOf key ss' :=
    Section.valuesIn_append ss ss'
  rw [hss, h.values key hkey, h'.values key hkey, Packed.partsOf_append, List.map_append]

/-- One more section in front. -/
theorem cons {s : Section} {ss : List Section} {xs ys : List (String × Packed)} (h : Packs [s] xs)
    (h' : Packs ss ys) : Packs (s :: ss) (xs ++ ys) :=
  h.append h'

/-- Sections for each member of a list. -/
theorem flatMap {α : Type} {as : List α} {f : α → List Section} {g : α → List (String × Packed)}
    (h : ∀ a ∈ as, Packs (f a) (g a)) : Packs (as.flatMap f) (as.flatMap g) := by
  induction as with
  | nil => exact nil
  | cons a as ih =>
      obtain ⟨ha, has⟩ := List.forall_mem_cons.mp h
      exact ha.append (ih has)

/-- Sections that pack nothing each pack nothing together. -/
theorem of_forall_nil {ss : List Section} (h : ∀ s ∈ ss, Packs [s] []) : Packs ss [] := by
  induction ss with
  | nil => exact nil
  | cons s ss ih =>
      obtain ⟨hs, hss⟩ := List.forall_mem_cons.mp h
      exact hs.cons (ih hss)

/-- **What sections pack is read back** exactly if all parts can be told apart. -/
theorem readsBack_iff {ss : List Section} {xs : List (String × Packed)} (h : Packs ss xs) :
    Packed.ReadsBack ss xs ↔ ∀ x ∈ xs, x.2.Separable := by
  have hkey : ∀ key ∈ keys, ((valuesOf key ss).map (Packed.read key) = (partsOf key xs).map some ↔
      ∀ x ∈ xs, x.1 = key → x.2.Separable) := by
    intro key hkey
    rw [h.values key hkey, List.map_map, List.map_inj_left, partsOf, List.forall_mem_map]
    simp only [List.mem_filter, decide_eq_true_eq, and_imp]
    refine forall₃_congr fun x hx hxk => ?_
    exact Packed.read_encode_iff (hxk ▸ h.fits x hx)
  have hfits : ∀ x ∈ xs, x.1 ∈ keys := by
    rintro ⟨key, x⟩ hx
    have hk := h.fits _ hx
    rw [keys]
    cases x with
    | list parts => exact List.mem_append_left _ (List.mem_cons_of_mem _ hk)
    | pair field operand => exact List.mem_append_right _ hk
    | types table =>
        obtain rfl : key = typesKey := hk
        exact List.mem_cons_self
  constructor
  · intro hr x hx
    exact (hkey x.1 (hfits x hx)).mp (hr _ (hfits x hx)) x hx rfl
  · intro hx key hk
    exact (hkey key hk).mpr fun x hxs _ => hx x hxs

/-! ## One section -/

variable {s : Section} {xs : List (String × Packed)}

/-- One section, of which only some keys are read. -/
theorem single (ks : List String) (hks : ∀ key ∈ keys, kindOf key = s.kind ↔ key ∈ ks)
    (hx : ∀ x ∈ xs, x.1 ∈ ks ∧ x.2.Fits x.1)
    (hv : ∀ key ∈ ks, s.values key = (partsOf key xs).map Packed.encode) : Packs [s] xs := by
  refine ⟨fun x hxs => (hx x hxs).2, fun key hkey => ?_⟩
  rw [valuesOf, Section.valuesIn_cons, Section.valuesIn_nil, List.append_nil]
  by_cases hk : key ∈ ks
  · rw [if_pos (List.mem_singleton.mpr ((hks key hkey).mpr hk).symm), hv key hk]
  · have hnone : partsOf key xs = [] := by
      rw [partsOf, List.map_eq_nil_iff, List.filter_eq_nil_iff]
      intro x hxs he
      exact hk (of_decide_eq_true he ▸ (hx x hxs).1)
    rw [if_neg fun hkind => hk ((hks key hkey).mp (List.mem_singleton.mp hkind).symm), hnone]
    rfl

theorem filter (hk : s.kind = .filter) (hx : ∀ x ∈ xs, x.1 ∈ pairKeys ∧ x.2.Fits x.1)
    (hv : ∀ key ∈ pairKeys, s.values key = (partsOf key xs).map Packed.encode) : Packs [s] xs :=
  single pairKeys (by rw [hk]; decide) hx hv

theorem input (hk : s.kind = .input) (hx : ∀ x ∈ xs, x.1 ∈ listKeys ∧ x.2.Fits x.1)
    (hv : ∀ key ∈ listKeys, s.values key = (partsOf key xs).map Packed.encode) : Packs [s] xs :=
  single listKeys (by rw [hk]; decide) hx hv

theorem parser (hk : s.kind = .parser) (hx : ∀ x ∈ xs, x.1 = typesKey ∧ x.2.Fits x.1)
    (hv : s.values typesKey = (partsOf typesKey xs).map Packed.encode) : Packs [s] xs :=
  single [typesKey] (by rw [hk]; decide) (by simpa using hx) (List.forall_mem_singleton.mpr hv)

/-- Sections of other kinds are not read. -/
theorem other {ss : List Section}
    (h : ∀ s ∈ ss, s.kind ≠ .filter ∧ s.kind ≠ .input ∧ s.kind ≠ .parser) : Packs ss [] := by
  refine ⟨List.forall_mem_nil _, fun key _ => Section.valuesIn_eq_nil fun s hs => ?_⟩
  rw [List.mem_singleton, kindOf]
  obtain ⟨hfilter, hinput, hparser⟩ := h s hs
  split
  · exact hinput
  · split
    · exact hparser
    · exact hfilter

/-- A filter without changes of fields. -/
theorem silentFilter (hk : s.kind = .filter) (hv : ∀ key ∈ pairKeys, s.values key = []) :
    Packs [s] [] :=
  filter hk (List.forall_mem_nil _) hv

/-- An input without lists. -/
theorem silentInput (hk : s.kind = .input) (hv : ∀ key ∈ listKeys, s.values key = []) :
    Packs [s] [] :=
  input hk (List.forall_mem_nil _) hv

end Packs

/-! ## Filters -/

namespace Filter

open Packed (pairKeys partsOf)

/-- The parts in a change. -/
def ModifyOp.packed : ModifyOp → List (String × Packed)
  | add k v => [("Add", .pair k v)]
  | set k v => [("Set", .pair k v)]
  | rename s t => [("Rename", .pair s t)]
  | hardRename s t => [("Hard_rename", .pair s t)]
  | hardCopy s t => [("Hard_copy", .pair s t)]
  | remove _ => []

theorem ModifyOp.packed_fits (op : ModifyOp) : ∀ x ∈ op.packed, x.1 ∈ pairKeys ∧ x.2.Fits x.1 := by
  cases op <;> simp [packed, Packed.Fits, pairKeys]

/-- The entry for a change has its parts. -/
theorem ModifyOp.filter_entry (op : ModifyOp) {key : String} (hkey : key ∈ pairKeys) :
    ([op.entry].filter (·.1 = key)).map (·.2) = (partsOf key op.packed).map Packed.encode := by
  have hremove : "Remove" ≠ key := by
    rintro rfl
    revert hkey
    decide
  cases op
  case remove k => simp [entry, packed, hremove]
  all_goals
    simp only [entry, packed, Packed.partsOf_cons, List.filter_cons, decide_eq_true_eq]
    split <;> simp [Packed.encode]

/-- The entries for changes have the parts of all. -/
theorem ModifyOp.filter_entries (ops : List ModifyOp) {key : String} (hkey : key ∈ pairKeys) :
    ((ops.map entry).filter (·.1 = key)).map (·.2)
      = (partsOf key (ops.flatMap packed)).map Packed.encode := by
  induction ops with
  | nil => rfl
  | cons op ops ih =>
      rw [List.map_cons, ← List.singleton_append, List.filter_append, List.map_append,
        filter_entry op hkey, ih, List.flatMap_cons, Packed.partsOf_append, List.map_append]

end Filter

namespace Packs

open Packed (listKeys pairKeys typesKey partsOf)
open Section (ofFields values_eq)

variable {key : String}

theorem ne_of_notMem {keys : List String} (hkey : key ∈ keys) : ∀ k, k ∉ keys → key ≠ k := by
  rintro k hk rfl
  exact hk hkey

theorem modify (routing : String) (ops : List Filter.ModifyOp) :
    Packs [Filter.modify routing ops] (ops.flatMap (·.packed)) := by
  refine filter rfl ?_ fun key hkey => ?_
  · exact List.forall_mem_flatMap.mpr fun op _ => op.packed_fits
  · rw [← Filter.ModifyOp.filter_entries ops hkey]
    simp +decide [values_eq, Filter.modify, Filter.named, ofFields, ne_of_notMem hkey]

theorem modifyIf (routing condition : String) (op : Filter.ModifyOp) :
    Packs [Filter.modifyIf routing condition op] op.packed := by
  refine filter rfl op.packed_fits fun key hkey => ?_
  rw [← op.filter_entry hkey]
  by_cases hk : op.entry.1 = key
  · subst hk
    simp +decide [values_eq, Filter.modifyIf, Filter.named, ofFields]
  · simp +decide [values_eq, Filter.modifyIf, Filter.named, ofFields, ne_of_notMem hkey, hk,
      Ne.symm hk]

/-- A table of replacements, one filter for each row. -/
theorem mapValues (routing source target : String) (table : List (String × String)) :
    Packs (Filter.mapValues routing source target false table)
      (table.map fun row => ("Add", .pair target row.2)) := by
  rw [Filter.mapValues, List.map_eq_flatMap, List.map_eq_flatMap]
  exact flatMap fun row _ => modifyIf routing (Filter.keyEquals source row.1) (.add target row.2)

theorem nestFields (routing wildcard under head : String) :
    Packs [Filter.nestFields routing wildcard under head] [] := by
  refine silentFilter rfl fun key hkey => ?_
  simp +decide [values_eq, Filter.nestFields, Filter.named, ofFields, ne_of_notMem hkey]

theorem exclude (routing : String) (rules : List (String × String)) :
    Packs [Filter.exclude routing rules] (rules.map fun r => ("Exclude", .pair r.1 r.2)) := by
  refine filter (Filter.kind_exclude _ _) ?_ fun key hkey => ?_
  · exact List.forall_mem_map.mpr fun r _ => by simp [Packed.Fits, pairKeys]
  · have hentries : ((rules.map fun r => ("Exclude", r.1 ++ " " ++ r.2)).filter (·.1 = key)).map (·.2)
        = (partsOf key (rules.map fun r => ("Exclude", .pair r.1 r.2))).map Packed.encode := by
      by_cases hk : "Exclude" = key <;>
        simp [partsOf, List.filter_map, Function.comp_def, hk, Packed.encode]
    rw [← hentries, Filter.exclude]
    split <;> simp +decide [values_eq, Filter.named, ofFields, ne_of_notMem hkey]

/-- A filter that calls a script, and the file of the script. -/
theorem scriptFilter (routing function script : String) :
    Packs (Script.filter routing function script) [] := by
  show Packs (Script.filter routing function script) ([] ++ [])
  refine cons (silentFilter (by simp) fun key hkey => ?_) (other ?_)
  · simp +decide [values_eq, ofFields, ne_of_notMem hkey]
  · simp [Section.ofFile]

theorem parse (routing field : String) (parsers : List String) (preserveKey : Bool) :
    Packs [Filter.parse routing field parsers preserveKey] [] := by
  refine silentFilter (Filter.kind_parse _ _ _ _) fun key hkey => ?_
  have hother : (parsers.map fun p => ("Parser", p)).filter (·.1 = key) = [] :=
    Carries.filter_entries_eq_nil (fun _ => (ne_of_notMem hkey "Parser" (by decide)).symm) parsers
  cases preserveKey <;>
    simp +decide [values_eq, Filter.parse, Filter.named, ofFields, ne_of_notMem hkey, hother]

/-- A field that is parsed between two scripts. -/
theorem parseChain (routing : String) (field : Option String) (parsers : List String)
    (preserveKey : Bool) : Packs (Filter.parseChain routing field parsers preserveKey) [] :=
  (scriptFilter routing "parser_nest" _).append
    ((parse routing _ parsers preserveKey).cons (scriptFilter routing "parser_merge_record" _))

theorem joinLines (routing parser : String) : Packs [Filter.joinLines routing parser] [] := by
  refine silentFilter rfl fun key hkey => ?_
  simp +decide [values_eq, Filter.joinLines, Filter.named, ofFields, ne_of_notMem hkey]

theorem lineParser (name : String) (rules : List Filter.LineRule) :
    Packs [Filter.lineParser name rules] [] :=
  other (by simp)

end Packs

/-! ## Parsers and inputs -/

/-- The parts in a table of types. -/
def ParserDef.packedTypes (types : Keyed String) : List (String × Packed) :=
  if types.isEmpty then [] else [("Types", .types types.entries)]

namespace Packs

open Packed (listKeys typesKey partsOf)
open Section (ofFields values_eq)

theorem parserDef (d : ParserDef) : Packs [d.toSection] (ParserDef.packedTypes d.types) := by
  refine parser (Carries.kind_parserDef d) ?_ ?_
  · rw [ParserDef.packedTypes]
    split <;> simp [Packed.Fits, typesKey]
  · obtain ⟨name, format, timeKey, timeFormat, types⟩ := d
    cases format <;> cases h : types.isEmpty <;>
      simp [values_eq, ParserDef.toSection, ParserDef.packedTypes, ofFields, h, typesKey,
        Packed.partsOf_cons, Packed.encode, ParserDef.renderTypes]

theorem syslog (tag : Tag) (mode listen : String) (port : Nat) :
    Packs (Input.syslog tag mode listen port) [] := by
  show Packs (Input.syslog tag mode listen port) ([] ++ [])
  refine cons (silentInput (by simp [Input.buffered]) fun key hkey => ?_)
    (parser (by simp) (List.forall_mem_nil _) ?_)
  · simp +decide [values_eq, Input.buffered, ofFields, ne_of_notMem hkey]
  · simp [values_eq, ofFields, typesKey]

theorem tcp (tag : Tag) (listen : String) (port : Nat) (format : String) :
    Packs [Input.tcp tag listen port format] [] := by
  refine silentInput rfl fun key hkey => ?_
  simp +decide [values_eq, Input.tcp, Input.buffered, ofFields, ne_of_notMem hkey]

theorem forward (tag : Tag) (listen : String) (port : Nat) :
    Packs [Input.forward tag listen port] [] := by
  refine silentInput rfl fun key hkey => ?_
  simp +decide [values_eq, Input.forward, Input.buffered, ofFields, ne_of_notMem hkey]

theorem eventLog (tag : Tag) (channels : List String) :
    Packs [Input.eventLog tag channels] [("Channels", .list channels)] := by
  refine input rfl (by simp [Packed.Fits, listKeys]) ?_
  simp [listKeys, values_eq, Input.eventLog, ofFields, Packed.partsOf_cons, Packed.encode]

/-- The input for files; without paths there is none. -/
theorem tail (i : Input.Tail) (tag : Tag) :
    Packs (i.section? tag).toList
      (if i.includePaths.isEmpty then []
        else ("Path", .list i.includePaths)
          :: if i.excludePaths.isEmpty then [] else [("Exclude_Path", .list i.excludePaths)]) := by
  rw [Input.Tail.section?]
  split
  · exact nil
  · by_cases he : i.excludePaths = [] <;> cases hm : i.bufferInMemory <;>
      refine input ?_ ?_ ?_
    all_goals
      simp [he, Input.buffered, ofFields, Packed.Fits, listKeys, values_eq, Packed.partsOf_cons,
        Packed.encode]

end Packs

end Telemetry
