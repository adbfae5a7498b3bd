import Mathlib.Data.List.Nodup
import PipelineSync.Data.Basic
import PipelineSync.Proofs.Json.Text
import PipelineSync.Proofs.Lists

/-!
# Fields that are written and read

A record is written from slots, the fields as they are declared with the value that each of them has
(`present`). If the names of the slots are those that the reader declares (`Declares`), then each
field is read from its own slot: `required?`, `getD?`, `optional?`, and `items?` and `flag?` for
what is left out as long as it is the default.
-/

namespace PipelineSync

namespace Data

/-! ## Fields -/

theorem asList?_ofList {α β : Type} {read : Data → Option β} {write : α → Data} {f : α → β}
    {l : List α} (h : ∀ a ∈ l, read (write a) = some (f a)) :
    asList? read (ofList write l) = some (l.map f) := by
  have : (l.map write).mapM read = some (l.map f) := by
    rw [List.mapM_map]
    exact mapM_eq_some_map h
  simpa [asList?, ofList, untagged] using this

theorem asList?_ofList_self {α : Type} {read : Data → Option α} {write : α → Data} {l : List α}
    (h : ∀ a, read (write a) = some a) : asList? read (ofList write l) = some l := by
  have := asList?_ofList (f := id) (l := l) fun a _ => h a
  rwa [List.map_id] at this

/-- The names under which a record declares its fields. -/
def heads (declared : List (List String)) : List String :=
  declared.map fun names => names.headD ""

/-- The fields that have a value. -/
def present : List (String × Option Data) → Fields
  | [] => []
  | (name, value) :: slots => optionalField name value ++ present slots

theorem map_fst_present (slots : List (String × Option Data)) :
    ((present slots).map Prod.fst).Sublist (slots.map Prod.fst) := by
  induction slots with
  | nil => exact List.Sublist.refl _
  | cons slot slots ih =>
    rw [present, List.map_append, List.map_cons]
    cases slot.2 with
    | none => exact ih.cons _
    | some d => exact ih.cons_cons _

theorem lookup_present {slots : List (String × Option Data)} {name : String}
    {value : Option Data} (hnodup : (slots.map Prod.fst).Nodup) (h : (name, value) ∈ slots) :
    (present slots).lookup name = value := by
  induction slots with
  | nil => exact absurd h List.not_mem_nil
  | cons slot slots ih =>
    rw [List.map_cons, List.nodup_cons] at hnodup
    rw [present, List.lookup_append]
    rcases List.mem_cons.1 h with rfl | h
    · have hlater : (present slots).lookup name = none := by
        rw [List.lookup_eq_none_iff]
        intro e he
        have hmem := (map_fst_present slots).subset (List.mem_map_of_mem he)
        rw [bne_iff_ne]
        rintro rfl
        exact hnodup.1 hmem
      cases value <;> simp [optionalField, hlater]
    · have hne : name ≠ slot.1 := by
        rintro rfl
        exact hnodup.1 (List.mem_map.2 ⟨_, h, rfl⟩)
      have hhead : (optionalField slot.1 slot.2).lookup name = none := by
        cases slot.2 <;> simp [optionalField, hne]
      rw [hhead, ih hnodup.2 h]
      rfl

/-- The declared fields are these, each with the value that it has, if any. -/
structure Declares (declared : List (List String)) (slots : List (String × Option Data)) :
    Prop where
  names : slots.map Prod.fst = heads declared
  distinct : (heads declared).Nodup
  self : ∀ n ∈ heads declared, declaredName? declared n = some n

namespace Declares

variable {declared : List (List String)} {slots : List (String × Option Data)}
  (h : Declares declared slots) {name : String} {α β : Type} {read : Data → Option β}

include h

theorem asFields? : (record (present slots)).asFields? declared = some (present slots) := by
  have hfields : ((present slots).map Prod.fst).Sublist (heads declared) :=
    h.names ▸ map_fst_present slots
  have hnamed : ((present slots).map fun e => (Data.text e.1, e.2)).mapM
      (fun e => do return (← e.1.asText?, e.2)) = some (present slots) := by
    rw [List.mapM_map, mapM_eq_some_map (g := id), List.map_id]
    intro e _
    rfl
  have hdeclared : (present slots).filterMap
      (fun e => (declaredName? declared e.1).map (·, e.2)) = present slots := by
    have hsome : ∀ e ∈ present slots, (declaredName? declared e.1).map (·, e.2) = some e := by
      intro e he
      rw [h.self e.1 (hfields.subset (List.mem_map_of_mem he))]
      rfl
    rw [List.filterMap_congr hsome, List.filterMap_some]
  have hdistinct : ((present slots).map Prod.fst).Nodup := hfields.nodup h.distinct
  unfold Data.asFields? record untagged
  dsimp only
  rw [hnamed, Option.bind_eq_bind, Option.bind_some, hdeclared, if_pos hdistinct]

theorem lookup {value : Option Data} (hslot : slots.lookup name = some value) :
    (present slots).lookup name = value := by
  obtain ⟨before, later, rfl, -⟩ := List.lookup_eq_some_iff.1 hslot
  exact lookup_present (h.names ▸ h.distinct) (by simp)

theorem required? {d : Data} {b : β} (hslot : slots.lookup name = some (some d))
    (hread : read d = some b) :
    (present slots).required? name read = some b := by
  unfold Fields.required?
  rw [h.lookup hslot, Option.bind_some, hread]

theorem getD? {d : Data} {b : β} (default : β) (hslot : slots.lookup name = some (some d))
    (hread : read d = some b) : (present slots).getD? name default read = some b := by
  unfold Fields.getD?
  rw [h.lookup hslot]
  exact hread

theorem optional? {write : α → Data} {f : α → β} {value : Option α}
    (hslot : slots.lookup name = some (value.map write))
    (hread : ∀ a ∈ value, asOption? read (write a) = some (some (f a))) :
    (present slots).optional? name read = some (value.map f) := by
  unfold Fields.optional? Fields.getD?
  rw [h.lookup hslot]
  cases value with
  | none => rfl
  | some a => exact hread a rfl

theorem optional?_self (write : β → Data) {value : Option β}
    (hslot : slots.lookup name = some (value.map write))
    (hread : ∀ b ∈ value, asOption? read (write b) = some (some b)) :
    (present slots).optional? name read = some value := by
  have := h.optional? (f := id) hslot hread
  rwa [Option.map_id] at this

/-- A list that is left out when it is empty. -/
theorem items? (write : β → Data) {items : List β}
    (hslot : slots.lookup name =
      some (if items.isEmpty then none else some (ofList write items)))
    (hread : ∀ b, read (write b) = some b) :
    (present slots).getD? name [] (asList? read) = some items := by
  unfold Fields.getD?
  rw [h.lookup hslot]
  cases items with
  | nil => rfl
  | cons b items => exact asList?_ofList_self hread

/-- A truth value that is left out when it is false. -/
theorem flag? {b : Bool}
    (hslot : slots.lookup name = some (if b then some (.bool true) else none)) :
    (present slots).getD? name false asBool? = some b := by
  unfold Fields.getD?
  rw [h.lookup hslot]
  cases b <;> rfl

end Declares

variable {names : String → Prop}

theorem written_record {slots : List (String × Option Data)}
    (h : ∀ e ∈ slots, ∀ d ∈ e.2, names e.1 ∧ d.Written names) :
    (record (present slots)).Written names := by
  have hpresent : ∀ e ∈ present slots, names e.1 ∧ e.2.Written names := by
    induction slots with
    | nil => exact fun e he => absurd he List.not_mem_nil
    | cons slot slots ih =>
      intro e he
      rw [present, List.mem_append] at he
      rcases he with he | he
      · obtain ⟨name, value⟩ := slot
        cases value with
        | none => exact absurd he List.not_mem_nil
        | some d =>
          obtain rfl : e = (name, d) := List.mem_singleton.1 he
          exact h _ List.mem_cons_self d rfl
      · exact ih (fun e' he' => h e' (List.mem_cons_of_mem _ he')) e he
  exact .record (fun e he => (hpresent e he).1) fun e he => (hpresent e he).2

theorem written_ofList {α : Type} {write : α → Data} (h : ∀ a, (write a).Written names)
    (l : List α) : (ofList write l).Written names := by
  apply Written.tuple
  intro d hd
  obtain ⟨a, -, rfl⟩ := List.mem_map.1 hd
  exact h a

/-- Somewhere in the data a map has the name as a key. -/
inductive HasField (name : String) : Data → Prop where
  | key {entries : List (Data × Data)} {d : Data} (h : (.text name, d) ∈ entries) :
      HasField name (.map entries)
  | entry {entries : List (Data × Data)} {e : Data × Data} (he : e ∈ entries)
      (h : HasField name e.2) : HasField name (.map entries)
  | tuple {items : List Data} {d : Data} (hd : d ∈ items) (h : HasField name d) :
      HasField name (.tuple items)
  | list {items : List Data} {d : Data} (hd : d ∈ items) (h : HasField name d) :
      HasField name (.list items)
  | tagged {tag : String} {d : Data} (h : HasField name d) : HasField name (.tagged tag d)

theorem Written.names_of_hasField {d : Data} {name : String} (hd : d.Written names)
    (h : d.HasField name) : names name := by
  induction hd with
  | null => cases h
  | bool b => cases h
  | text s => cases h
  | tuple hitems ih =>
    cases h with
    | tuple hmem h => exact ih _ hmem h
  | @record fields hnames hvalues ih =>
    have h : HasField name (.map (fields.map fun e => (.text e.1, e.2))) := h
    cases h with
    | key hmem =>
      obtain ⟨e, he, heq⟩ := List.mem_map.1 hmem
      simp only [Prod.mk.injEq, text.injEq] at heq
      exact heq.1 ▸ hnames e he
    | entry hmem h =>
      obtain ⟨e, he, rfl⟩ := List.mem_map.1 hmem
      exact ih e he h

end Data

end PipelineSync
