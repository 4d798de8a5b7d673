import Telemetry.Proofs.Keyed
import Telemetry.Section.Layout

/-!
# What a section says

The view of a section is its kind, the look-up of its fields and its list of entries. Each way to
build a section is described by what it does to that view, as a rule for `simp`, so that what a
built section says can be computed without unfolding how its fields are stored.

**`valuesIn`** reads one key in all sections of some kinds, in order: the names of parsers, the
position databases of inputs, the parsers that filters apply. It is a homomorphism of lists.
-/

namespace Telemetry.Section

/-! ## The view after each operation -/

@[simp] theorem kind_new (kind : SectionKind) : (new kind).kind = kind := rfl
@[simp] theorem get?_new (kind : SectionKind) (key : String) : (new kind).get? key = none := rfl
@[simp] theorem entries_new (kind : SectionKind) : (new kind).entries = [] := rfl

@[simp] theorem kind_set (s : Section) (key value : String) : (s.set key value).kind = s.kind := rfl
@[simp] theorem entries_set (s : Section) (key value : String) :
    (s.set key value).entries = s.entries := rfl
@[simp] theorem get?_set (s : Section) (key key' value : String) :
    (s.set key value).get? key' = if key' = key then some value else s.get? key' :=
  Keyed.get?_insert s.fields key key' value

@[simp] theorem kind_pushAll (s : Section) (es : List (String × String)) :
    (s.pushAll es).kind = s.kind := rfl
@[simp] theorem entries_pushAll (s : Section) (es : List (String × String)) :
    (s.pushAll es).entries = s.entries ++ es := rfl
@[simp] theorem get?_pushAll (s : Section) (es : List (String × String)) (key : String) :
    (s.pushAll es).get? key = s.get? key := rfl

@[simp] theorem setAll_nil (s : Section) : s.setAll [] = s := rfl
@[simp] theorem setAll_cons (s : Section) (f : String × String) (fs : List (String × String)) :
    s.setAll (f :: fs) = (s.set f.1 f.2).setAll fs := rfl

@[simp] theorem kind_setIfSome (s : Section) (key : String) (value : Option String) :
    (s.setIfSome key value).kind = s.kind := by
  cases value <;> rfl
@[simp] theorem entries_setIfSome (s : Section) (key : String) (value : Option String) :
    (s.setIfSome key value).entries = s.entries := by
  cases value <;> rfl
@[simp] theorem get?_setIfSome (s : Section) (key key' : String) (value : Option String) :
    (s.setIfSome key value).get? key' = if key' = key then value <|> s.get? key' else s.get? key' := by
  cases value with
  | none => simp [setIfSome]
  | some v => simp [setIfSome]

@[simp] theorem kind_ofFields (kind : SectionKind) (fs : List (String × String)) :
    (ofFields kind fs).kind = kind := by
  have key : ∀ (fs : List (String × String)) (s : Section), (s.setAll fs).kind = s.kind := by
    intro fs
    induction fs with
    | nil => exact fun _ => rfl
    | cons f fs ih => exact fun s => ih (s.set f.1 f.2)
  exact key fs (new kind)

/-! ## Sections of one kind -/

theorem filter_kind_eq_nil {ss : List Section} {kind : SectionKind} (h : ∀ s ∈ ss, s.kind ≠ kind) :
    ss.filter (·.kind = kind) = [] := by
  refine List.filter_eq_nil_iff.mpr ?_
  intro s hs
  simpa using h s hs

/-- Sections that all have one kind are either all of some kind, or none is. -/
theorem filter_kind_of_forall {ss : List Section} {kind : SectionKind}
    (h : ∀ s ∈ ss, s.kind = kind) (k : SectionKind) :
    ss.filter (·.kind = k) = if kind = k then ss else [] := by
  split
  · rename_i hk
    refine List.filter_eq_self.mpr ?_
    intro s hs
    simp [h s hs, hk]
  · rename_i hk
    refine filter_kind_eq_nil ?_
    intro s hs
    rw [h s hs]
    exact hk

/-! ## The values of a key -/

/-- The values of a key in the lines of a section, in order. -/
def values (s : Section) (key : String) : List String :=
  (s.lines.filter (·.1 = key)).map (·.2)

/-- The value of the field stands before those of the entries. -/
theorem values_eq (s : Section) (key : String) :
    s.values key = (s.get? key).toList ++ (s.entries.filter (·.1 = key)).map (·.2) := by
  rw [values, lines, List.filter_append, List.map_append, Keyed.filter_entries]
  rfl

/-- The values of a key in the sections of some kinds, in order. -/
def valuesIn (kinds : List SectionKind) (key : String) (ss : List Section) : List String :=
  ss.flatMap fun s => if s.kind ∈ kinds then s.values key else []

variable {kinds : List SectionKind} {key : String}

@[simp] theorem valuesIn_nil : valuesIn kinds key [] = [] := rfl

theorem valuesIn_cons (s : Section) (ss : List Section) :
    valuesIn kinds key (s :: ss)
      = (if s.kind ∈ kinds then s.values key else []) ++ valuesIn kinds key ss := rfl

theorem valuesIn_eq_filter (kinds : List SectionKind) (key : String) (ss : List Section) :
    valuesIn kinds key ss = (ss.filter (·.kind ∈ kinds)).flatMap (·.values key) := by
  induction ss with
  | nil => rfl
  | cons s ss ih =>
      rw [valuesIn_cons, ih]
      by_cases h : s.kind ∈ kinds
      · rw [if_pos h, List.filter_cons_of_pos (by simpa using h), List.flatMap_cons]
      · rw [if_neg h, List.filter_cons_of_neg (by simpa using h), List.nil_append]

@[simp] theorem valuesIn_append (ss ss' : List Section) :
    valuesIn kinds key (ss ++ ss') = valuesIn kinds key ss ++ valuesIn kinds key ss' :=
  List.flatMap_append

/-- Sections of other kinds have no say. -/
theorem valuesIn_eq_nil {ss : List Section} (h : ∀ s ∈ ss, s.kind ∉ kinds) :
    valuesIn kinds key ss = [] := by
  refine List.flatMap_eq_nil_iff.mpr ?_
  intro s hs
  rw [if_neg (h s hs)]

end Telemetry.Section
