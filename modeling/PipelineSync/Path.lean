import PipelineSync.Text.Split

/-!
# Paths

A path is text. Its meaning is its list of components: a `/` in front, the parts between slashes,
and none of the `.` parts but a leading one. This file gives the components, the joining of paths,
and the form of a path that ignore patterns are written against.
-/

namespace PipelineSync

/-- One step of a path. -/
inductive Component where
  /-- The `/` in front of an absolute path. -/
  | root
  /-- A `.` in front of a relative path. -/
  | here
  /-- A `..`, wherever it stands. -/
  | up
  /-- A file or directory name. -/
  | named (name : String)
deriving DecidableEq, Repr

/-- The text of a component. -/
def Component.text : Component → String
  | .root => "/"
  | .here => "."
  | .up => ".."
  | .named name => name

namespace Path

/-- Whether the path starts at the root. -/
def isAbsolute (path : String) : Bool :=
  path.toList.head? == some '/'

/-- The components that the parts between slashes stand for, a leading `.` left out. -/
private def ofParts (parts : List String) : List Component :=
  parts.filterMap fun part =>
    if part == "" || part == "." then none
    else if part == ".." then some .up
    else some (.named part)

/-- The components of a path. Empty parts and `.` parts vanish, but for a leading `.`. -/
def components (path : String) : List Component :=
  let parts := (Text.splitAt (· == '/') path.toList).map String.ofList
  if isAbsolute path then .root :: ofParts parts
  else if parts.head? == some "." then .here :: ofParts parts
  else ofParts parts

/-- The last component, if it is a name. -/
def fileName? (path : String) : Option String :=
  match (components path).getLast? with
  | some (.named name) => some name
  | _ => none

/-- `path` seen from `base`; an absolute path is itself. -/
def join (base path : String) : String :=
  if isAbsolute path || base == "" then path
  else if base.toList.getLast? == some '/' then base ++ path
  else base ++ "/" ++ path

/-- Whether a text can stand for a file in a directory: something, without slashes, that does not lead
anywhere else. -/
def IsName (name : String) : Prop :=
  name ≠ "" ∧ name ≠ "." ∧ name ≠ ".." ∧ '/' ∉ name.toList

private theorem ofParts_name {name : String} (h : IsName name) :
    ofParts [name] = [.named name] := by
  obtain ⟨hempty, hdot, hup, -⟩ := h
  simp [ofParts, hempty, hdot, hup]

private theorem ofParts_append (parts more : List String) :
    ofParts (parts ++ more) = ofParts parts ++ ofParts more :=
  List.filterMap_append

theorem IsName.isAbsolute {name : String} (h : IsName name) : isAbsolute name = false := by
  obtain ⟨-, -, -, hslash⟩ := h
  unfold Path.isAbsolute
  rw [beq_eq_false_iff_ne]
  intro hhead
  exact hslash (List.mem_of_mem_head? hhead)

theorem IsName.splitAt {name : String} (h : IsName name) :
    Text.splitAt (· == '/') name.toList = [name.toList] := by
  obtain ⟨-, -, -, hslash⟩ := h
  apply Text.splitAt_of_forall_not
  intro c hc
  rw [beq_eq_false_iff_ne]
  rintro rfl
  exact hslash hc

/-- The parts of a path with a name behind it are its parts and the name; an empty part at the end
makes no difference. -/
private theorem exists_parts_join {base name : String} (hbase : base ≠ "") (h : IsName name) :
    ∃ parts, parts ≠ [] ∧
      (Text.splitAt (· == '/') (join base name).toList).map String.ofList = parts ++ [name] ∧
      ((Text.splitAt (· == '/') base.toList).map String.ofList = parts ∨
        (Text.splitAt (· == '/') base.toList).map String.ofList = parts ++ [""]) := by
  have hsplit (cs ds : List Char) : Text.splitAt (· == '/') (cs ++ '/' :: ds) =
      Text.splitAt (· == '/') cs ++ Text.splitAt (· == '/') ds :=
    Text.splitAt_append_cons rfl cs ds
  by_cases hend : base.toList.getLast? = some '/'
  · obtain ⟨front, hfront⟩ := List.getLast?_eq_some_iff.1 hend
    have hjoin : (join base name).toList = front ++ '/' :: name.toList := by
      simp [join, h.isAbsolute, hbase, hfront]
    refine ⟨(Text.splitAt (· == '/') front).map String.ofList, ?_, ?_, Or.inr ?_⟩
    · simp [Text.splitAt_ne_nil]
    · rw [hjoin, hsplit, h.splitAt]
      simp
    · rw [hfront, hsplit]
      simp [Text.splitAt]
  · have hjoin : (join base name).toList = base.toList ++ '/' :: name.toList := by
      simp [join, h.isAbsolute, hbase, hend]
    refine ⟨(Text.splitAt (· == '/') base.toList).map String.ofList, ?_, ?_, Or.inl rfl⟩
    · simp [Text.splitAt_ne_nil]
    · rw [hjoin, hsplit, h.splitAt]
      simp

theorem isAbsolute_join {base name : String} (hbase : base ≠ "") (h : IsName name) :
    isAbsolute (join base name) = isAbsolute base := by
  obtain ⟨c, cs, hcs⟩ := List.exists_cons_of_ne_nil (l := base.toList) (by simpa using hbase)
  unfold join
  split
  · next habsolute => simp [h.isAbsolute, hbase] at habsolute
  · split <;> simp [isAbsolute, hcs]

/-- What a path puts in front of the relative paths that are joined to it. -/
theorem exists_join_eq (base : String) :
    ∃ front, ∀ path, isAbsolute path = false → join base path = front ++ path := by
  by_cases hbase : base = ""
  · exact ⟨"", fun path _ => by simp [join, hbase]⟩
  by_cases hend : base.toList.getLast? = some '/'
  · exact ⟨base, fun path h => by simp [join, h, hbase, hend]⟩
  · exact ⟨base ++ "/", fun path h => by simp [join, h, hbase, hend]⟩

theorem IsName.isAbsolute_append {name : String} (h : IsName name) (rest : String) :
    Path.isAbsolute (name ++ rest) = false := by
  obtain ⟨c, cs, hcs⟩ := List.exists_cons_of_ne_nil (l := name.toList) (by simpa using h.1)
  have habsolute := h.isAbsolute
  simp only [Path.isAbsolute, hcs] at habsolute
  simpa [Path.isAbsolute, hcs] using habsolute

/-- Paths are joined one name at a time, or all names at once. -/
theorem join_join (base : String) {name path : String} (h : IsName name)
    (hpath : isAbsolute path = false) :
    join (join base name) path = join base (name ++ "/" ++ path) := by
  obtain ⟨front, hfront⟩ := exists_join_eq base
  have hrelative : ¬(isAbsolute path || front ++ name == "") = true := by simp [hpath, h.1]
  have hend : ¬((front ++ name).toList.getLast? == some '/') = true := by
    have hlast : name.toList.getLast?.isSome = true :=
      List.getLast?_isSome.2 (by simpa using h.1)
    rw [String.toList_append, List.getLast?_append, Option.or_of_isSome hlast, beq_iff_eq]
    exact fun hslash => h.2.2.2 (List.mem_of_getLast? hslash)
  rw [String.append_assoc, hfront name h.isAbsolute, hfront _ (h.isAbsolute_append _), join,
    if_neg hrelative, if_neg hend]
  simp only [String.append_assoc]

/-- A name behind a path is one more component. -/
theorem components_join {base name : String} (h : IsName name) :
    components (join base name) = components base ++ [.named name] := by
  by_cases hbase : base = ""
  · subst hbase
    have hjoin : join "" name = name := by simp [join]
    have hdot : name ≠ "." := h.2.1
    have hempty : components "" = [] := by decide
    rw [hjoin, hempty, components, h.isAbsolute, h.splitAt]
    simp [hdot, ofParts_name h]
  · obtain ⟨parts, hne, hjoin, hparts⟩ := exists_parts_join hbase h
    obtain ⟨part, rest, rfl⟩ := List.exists_cons_of_ne_nil hne
    have hname : ofParts (part :: rest ++ [name]) = ofParts (part :: rest) ++ [.named name] := by
      rw [ofParts_append, ofParts_name h]
    have hempty : ofParts (part :: rest ++ [""]) = ofParts (part :: rest) := by
      rw [ofParts_append]
      exact List.append_nil _
    have hhead (last : String) : (part :: rest ++ [last]).head? = (part :: rest).head? := rfl
    unfold components
    dsimp only
    rw [isAbsolute_join hbase h, hjoin, hname, hhead]
    rcases hparts with hparts | hparts
    · rw [hparts]
      split
      · rfl
      · split <;> rfl
    · rw [hparts, hempty, hhead]
      split
      · rfl
      · split <;> rfl

theorem isAbsolute_names {names : List String} (h : ∀ name ∈ names, IsName name) :
    isAbsolute (Text.join "/" names) = false := by
  cases names with
  | nil => rfl
  | cons name rest =>
    have hname : IsName name := h name List.mem_cons_self
    cases rest with
    | nil => simpa [Text.join] using hname.isAbsolute
    | cons next rest =>
      rw [Text.join, String.intercalate_cons_of_ne_nil (List.cons_ne_nil _ _), String.append_assoc]
      exact hname.isAbsolute_append _

/-- Names behind a path are as many components. -/
theorem components_join_names (base : String) {names : List String} (hne : names ≠ [])
    (h : ∀ name ∈ names, IsName name) :
    components (join base (Text.join "/" names)) = components base ++ names.map .named := by
  induction names generalizing base with
  | nil => exact absurd rfl hne
  | cons name rest ih =>
    obtain ⟨hname, hrest⟩ := List.forall_mem_cons.1 h
    cases rest with
    | nil => simpa [Text.join] using components_join hname
    | cons next rest =>
      rw [Text.join, String.intercalate_cons_of_ne_nil (List.cons_ne_nil _ _), ← Text.join,
        ← join_join base hname (isAbsolute_names hrest), ih _ (List.cons_ne_nil _ _) hrest, components_join hname, List.append_assoc]
      rfl

/-- A path below a working copy as ignore patterns see it: rooted and without detours. -/
def filterForm (path : String) : String :=
  "/" ++ Text.join "/" ((components path).map Component.text)

/-- The end of the name of a configuration fragment. -/
def fragmentSuffix : String := ".gocd.xml"

/-- Whether a file name is that of a fragment: more than the suffix, and the suffix at its end. -/
def isFragmentName (name : String) : Bool :=
  let cs := name.toList
  fragmentSuffix.length < cs.length && fragmentSuffix.toList.isSuffixOf cs

/-- Names are as ignore patterns see them, but for the slash in front. -/
theorem filterForm_names {names : List String} (hne : names ≠ [])
    (h : ∀ name ∈ names, IsName name) :
    filterForm (Text.join "/" names) = "/" ++ Text.join "/" names := by
  have hcomponents := components_join_names "" hne h
  have hbase : join "" (Text.join "/" names) = Text.join "/" names := by simp [join]
  have hempty : components "" = [] := by decide
  rw [hbase, hempty, List.nil_append] at hcomponents
  rw [filterForm, hcomponents, List.map_map]
  congr 2
  exact List.map_id names

/-- Whether a path leads to a configuration fragment, by its last component. -/
def isFragment (path : String) : Bool :=
  match fileName? path with
  | some name => isFragmentName name
  | none => false

end Path

end PipelineSync
