import BuildAlign.Coordinate.Parse
import BuildAlign.Proofs.Text.Cutting

/-!
The written forms of identities as keys. Which texts are read, and as what, is said by their parts
between colons; the parts that a coordinate is written with are read as the same coordinate, so what
was read once can be told apart by its text.
-/

namespace BuildAlign

/-! ## Parts between colons -/

/-- The parts of a text between its colons: no part has a colon, and joined by colons they are the
text. -/
structure SplitsAtColons (s : String) (parts : List String) : Prop where
  nonempty : parts ≠ []
  no_colon : ∀ p ∈ parts, ':' ∉ p.toList
  joined : ":".intercalate parts = s

theorem not_mem_of_mem_splitOn {s part : List Char} (h : part ∈ s.splitOn ':') : ':' ∉ part := by
  induction s generalizing part with
  | nil =>
    obtain rfl : part = [] := by simpa using h
    exact List.not_mem_nil
  | cons c s ih =>
    rw [List.splitOn_cons_eq_if_modifyHead] at h
    split at h
    · rcases List.mem_cons.mp h with rfl | h
      · exact List.not_mem_nil
      · exact ih h
    · rename_i hc
      obtain ⟨first, later, hsplit⟩ := List.exists_cons_of_ne_nil (List.splitOn_ne_nil ':' s)
      rw [hsplit] at h ih
      rcases List.mem_cons.mp h with rfl | h
      · have hfirst := ih (List.mem_cons_self ..)
        simp only [List.mem_cons, not_or]
        exact ⟨fun heq => hc (beq_iff_eq.mpr heq.symm), hfirst⟩
      · exact ih (List.mem_cons_of_mem _ h)

/-- The parts of a text are the one way to cut it at all its colons. -/
theorem colonParts_eq_iff {s : String} {parts : List String} :
    colonParts s = parts ↔ SplitsAtColons s parts := by
  constructor
  · rintro rfl
    refine ⟨?_, ?_, ?_⟩
    · simp [colonParts]
    · intro p hp
      obtain ⟨part, hpart, rfl⟩ := List.mem_map.mp hp
      rw [String.toList_ofList]
      exact not_mem_of_mem_splitOn hpart
    · have hparts : (colonParts s).map String.toList = s.toList.splitOn ':' := by
        simp [colonParts, Function.comp_def]
      rw [← String.toList_inj, String.toList_intercalate, hparts]
      exact List.intercalate_splitOn ':'
  · rintro ⟨hne, hcolon, rfl⟩
    have hsplit : (":".intercalate parts).toList.splitOn ':' = parts.map String.toList := by
      rw [String.toList_intercalate]
      exact List.splitOn_intercalate ':' (by simpa using hcolon) (by simpa using hne)
    rw [colonParts, hsplit]
    simp [Function.comp_def]

/-- A joined text starts with its first part. -/
theorem exists_toList_intercalate_cons (first : String) (later : List String) :
    ∃ rest, (":".intercalate (first :: later)).toList = first.toList ++ rest := by
  rw [String.toList_intercalate]
  cases later with
  | nil => exact ⟨[], by simp [List.intercalate]⟩
  | cons second later =>
    rw [List.map_cons, List.map_cons, List.intercalate_cons_cons, List.append_assoc]
    exact ⟨_, rfl⟩

/-- A joined text ends with its last part. -/
theorem exists_toList_intercalate_concat (front : List String) (last : String) :
    ∃ init, (":".intercalate (front ++ [last])).toList = init ++ last.toList := by
  induction front with
  | nil => exact ⟨[], by simp⟩
  | cons first front ih =>
    obtain ⟨init, hinit⟩ := ih
    obtain ⟨second, later, hmore⟩ := List.exists_cons_of_ne_nil
      (List.append_ne_nil_of_right_ne_nil front (List.cons_ne_nil last []))
    rw [String.toList_intercalate, hmore, List.map_cons] at hinit
    rw [String.toList_intercalate, List.cons_append, hmore, List.map_cons, List.map_cons,
      List.intercalate_cons_cons, hinit, ← List.append_assoc]
    exact ⟨_, rfl⟩

theorem toList_ne_nil_of_isBlank {s : String} (h : Text.isBlank s = false) : s.toList ≠ [] := by
  obtain ⟨c, hc, _⟩ := Text.isBlank_eq_false.mp h
  exact List.ne_nil_of_mem hc

/-- A text that has the first and the last part of a trimmed one has nothing to be trimmed either,
as long as neither part is blank. -/
theorem trimmed_intercalate {s first last : String} (middle middle' : List String)
    (hs : SplitsAtColons (Text.trimmed s) (first :: middle ++ [last]))
    (hfirst : Text.isBlank first = false) (hlast : Text.isBlank last = false) :
    Text.trimmed (":".intercalate (first :: middle' ++ [last])) =
      ":".intercalate (first :: middle' ++ [last]) := by
  have htrim : (Text.trim s.toList) = (":".intercalate (first :: middle ++ [last])).toList := by
    rw [hs.joined, Text.trimmed, String.toList_ofList]
  have hne := toList_ne_nil_of_isBlank hfirst
  have hne' := toList_ne_nil_of_isBlank hlast
  rw [Text.trimmed, Text.trim_of_ends, String.ofList_toList]
  · intro c hc
    obtain ⟨rest, hrest⟩ := exists_toList_intercalate_cons first (middle ++ [last])
    obtain ⟨rest', hrest'⟩ := exists_toList_intercalate_cons first (middle' ++ [last])
    rw [List.cons_append, hrest', List.head?_append_of_ne_nil _ hne] at hc
    apply Text.isBlankChar_head?_trim (s := s.toList)
    rw [htrim, List.cons_append, hrest, List.head?_append_of_ne_nil _ hne, hc]
  · intro c hc
    obtain ⟨init, hinit⟩ := exists_toList_intercalate_concat (first :: middle) last
    obtain ⟨init', hinit'⟩ := exists_toList_intercalate_concat (first :: middle') last
    rw [hinit', List.getLast?_append_of_ne_nil _ hne'] at hc
    apply Text.isBlankChar_getLast?_trim (s := s.toList)
    rw [htrim, hinit, List.getLast?_append_of_ne_nil _ hne', hc]

theorem blankPart?_eq_none_iff {parts : List (IdentityPart × String)} :
    blankPart? parts = none ↔ ∀ p ∈ parts, Text.isBlank p.2 = false := by
  simp [blankPart?]

/-- A text of which a part is not blank is not empty. -/
theorem SplitsAtColons.isEmpty_eq_false {s first : String} {later : List String}
    (h : SplitsAtColons s (first :: later)) (hfirst : Text.isBlank first = false) :
    s.isEmpty = false := by
  obtain ⟨rest, hrest⟩ := exists_toList_intercalate_cons first later
  have hne := toList_ne_nil_of_isBlank hfirst
  rw [← Bool.not_eq_true, String.isEmpty_iff, ← String.toList_inj, ← h.joined, hrest]
  exact fun hnil => hne (List.append_eq_nil_iff.mp hnil).1

/-! ## Artifacts -/

namespace Artifact

/-- What a text is read as: the two parts of it, neither of them blank. -/
theorem parse_eq_ok_iff {s : String} {a : Artifact} :
    parse s = .ok a ↔ SplitsAtColons (Text.trimmed s) [a.group, a.name] ∧
      Text.isBlank a.group = false ∧ Text.isBlank a.name = false := by
  rw [← colonParts_eq_iff]
  constructor
  · intro h
    unfold parse at h
    dsimp only at h
    split at h
    · cases h
    · split at h
      · rename_i group name hparts
        split at h
        · cases h
        · rename_i hblank
          obtain rfl := Except.ok.inj h
          have hall := blankPart?_eq_none_iff.mp hblank
          exact ⟨hparts, hall (.group, group) (by simp), hall (.name, name) (by simp)⟩
      · cases h
  · rintro ⟨hparts, hgroup, hname⟩
    have hnonempty := (colonParts_eq_iff.mp hparts).isEmpty_eq_false hgroup
    have hblank : blankPart? [(.group, a.group), (.name, a.name)] = none :=
      blankPart?_eq_none_iff.mpr (by simp [hgroup, hname])
    simp only [parse, hnonempty, hparts, hblank]
    rfl

theorem text_eq_intercalate (a : Artifact) : a.text = ":".intercalate [a.group, a.name] := by
  rw [text, ← String.toList_inj]
  simp

theorem parse_text {s : String} {a : Artifact} (h : parse s = .ok a) : parse a.text = .ok a := by
  obtain ⟨hsplit, hgroup, hname⟩ := parse_eq_ok_iff.mp h
  have htrimmed : Text.trimmed a.text = a.text := by
    rw [text_eq_intercalate]
    exact trimmed_intercalate [] [] hsplit hgroup hname
  refine parse_eq_ok_iff.mpr ⟨?_, hgroup, hname⟩
  rw [htrimmed]
  exact ⟨List.cons_ne_nil _ _, hsplit.no_colon, a.text_eq_intercalate.symm⟩

end Artifact

/-! ## Coordinates -/

namespace Coordinate

/-- A part that says the type, the default one if the part is empty. -/
def kindOf (part : String) : String :=
  if part = "" then defaultKind else part

/-- A part that says the classifier, none if the part is empty. -/
def classifierOf (part : String) : Option String :=
  if part = "" then none else some part

/-- The parts between the name and the version, with the type and the classifier that they say. -/
inductive Middle : List String → String → Option String → Prop
  | plain : Middle [] defaultKind none
  | typed (t : String) : Middle [t] (kindOf t) none
  | classified (t k : String) : Middle [t, k] (kindOf t) (classifierOf k)

theorem Middle.length_le {middle : List String} {kind : String} {classifier : Option String}
    (h : Middle middle kind classifier) : middle.length ≤ 2 := by
  cases h <;> simp

theorem Middle.kind_ne_empty {middle : List String} {kind : String} {classifier : Option String}
    (h : Middle middle kind classifier) : kind ≠ "" := by
  have hkind : ∀ t, kindOf t ≠ "" := by
    intro t
    rw [kindOf]
    split
    · decide
    · assumption
  cases h with
  | plain => decide
  | typed t => exact hkind t
  | classified t k => exact hkind t

theorem Middle.classifier_ne_empty {middle : List String} {kind : String}
    {classifier : Option String} (h : Middle middle kind classifier) : classifier ≠ some "" := by
  cases h with
  | plain => exact nofun
  | typed t => exact nofun
  | classified t k =>
    rw [classifierOf]
    split
    · exact nofun
    · simpa

/-- Type and classifier are parts themselves, unless the type is the default one. -/
theorem Middle.mem {middle : List String} {kind : String} {classifier : Option String}
    (h : Middle middle kind classifier) :
    (kind = defaultKind ∨ kind ∈ middle) ∧ ∀ k ∈ classifier, k ∈ middle := by
  have hkind : ∀ t, kindOf t = defaultKind ∨ kindOf t = t := by
    intro t
    rw [kindOf]
    split
    · exact .inl rfl
    · exact .inr rfl
  cases h with
  | plain => exact ⟨.inl rfl, nofun⟩
  | typed t => exact ⟨(hkind t).imp_right fun heq => by simp [heq], nofun⟩
  | classified t k =>
    refine ⟨(hkind t).imp_right fun heq => by simp [heq], fun k' hk' => ?_⟩
    rw [classifierOf] at hk'
    split at hk'
    · cases hk'
    · obtain rfl := Option.some.inj hk'
      simp

/-- The parts that a coordinate is written with between its name and its version. -/
def writtenMiddle (c : Coordinate) : List String :=
  match c.classifier with
  | some k => [c.kind, k]
  | none => if c.kind = defaultKind then [] else [c.kind]

theorem text_eq_intercalate (c : Coordinate) :
    c.text = ":".intercalate
      (c.artifact.group :: c.artifact.name :: (c.writtenMiddle ++ [c.version])) := by
  rw [text, writtenMiddle, ← String.toList_inj, Artifact.text]
  cases c.classifier with
  | some k => simp
  | none =>
    dsimp only
    split <;> simp

/-- A part that is written was read, unless it is the default type. -/
theorem mem_writtenMiddle {c : Coordinate} {middle : List String}
    (h : Middle middle c.kind c.classifier) {part : String} (hpart : part ∈ c.writtenMiddle) :
    part = defaultKind ∨ part ∈ middle := by
  obtain ⟨hkind, hclassifier⟩ := h.mem
  rw [writtenMiddle] at hpart
  split at hpart
  · rename_i k hk
    rcases List.mem_cons.mp hpart with rfl | hpart
    · exact hkind
    · obtain rfl := List.mem_singleton.mp hpart
      exact .inr (hclassifier part hk)
  · split at hpart
    · exact absurd hpart List.not_mem_nil
    · obtain rfl := List.mem_singleton.mp hpart
      exact hkind

/-- The written parts say the type and the classifier again. -/
theorem middle_writtenMiddle {c : Coordinate} (hkind : c.kind ≠ "")
    (hclassifier : c.classifier ≠ some "") : Middle c.writtenMiddle c.kind c.classifier := by
  have hsame : kindOf c.kind = c.kind := if_neg hkind
  rw [writtenMiddle]
  cases hk : c.classifier with
  | some k =>
    have hne : k ≠ "" := fun hempty => hclassifier (hempty ▸ hk)
    have hsame' : classifierOf k = some k := if_neg hne
    have hmiddle := Middle.classified c.kind k
    rwa [hsame, hsame'] at hmiddle
  | none =>
    dsimp only
    split
    · rename_i hdefault
      rw [hdefault]
      exact .plain
    · have hmiddle := Middle.typed c.kind
      rwa [hsame] at hmiddle

theorem filter_eq_classifierOf (part : String) :
    (some part).filter (fun k => !k.isEmpty) = classifierOf part := by
  rw [Option.filter_some, classifierOf]
  by_cases hpart : part = "" <;> simp [hpart]

/-- The parts that are read as a coordinate, with the ones in the middle in one of the accepted
shapes. -/
theorem coordinateFields?_eq_some {parts : List String} {group name kind version : String}
    {classifier : Option String}
    (h : coordinateFields? parts = some (group, name, kind, classifier, version)) :
    ∃ middle, parts = group :: name :: (middle ++ [version]) ∧
      Middle middle (kindOf kind) (classifier.filter fun k => !k.isEmpty) := by
  unfold coordinateFields? at h
  split at h
  · cases h
    exact ⟨[], rfl, .plain⟩
  · cases h
    exact ⟨[kind], rfl, .typed kind⟩
  · rename_i k _
    cases h
    rw [filter_eq_classifierOf]
    exact ⟨[kind, k], rfl, .classified kind k⟩
  · cases h

/-- The converse: every accepted shape is read, as what it stands for. -/
theorem Middle.coordinateFields?_eq_some {middle : List String} {kind : String}
    {classifier : Option String} (h : Middle middle kind classifier)
    (group name version : String) :
    ∃ t k, coordinateFields? (group :: name :: (middle ++ [version])) =
        some (group, name, t, k, version) ∧
      kindOf t = kind ∧ (k.filter fun k => !k.isEmpty) = classifier := by
  cases h with
  | plain => exact ⟨_, _, rfl, rfl, rfl⟩
  | typed t => exact ⟨_, _, rfl, rfl, rfl⟩
  | classified t k => exact ⟨_, _, rfl, rfl, filter_eq_classifierOf k⟩

/-- What a text is read as: the parts of it, with the type and the classifier that those in the
middle say, and neither group nor name nor version blank. -/
theorem parse_eq_ok_iff {s : String} {c : Coordinate} :
    parse s = .ok c ↔ ∃ middle,
      SplitsAtColons (Text.trimmed s)
        (c.artifact.group :: c.artifact.name :: (middle ++ [c.version])) ∧
      Middle middle c.kind c.classifier ∧ Text.isBlank c.artifact.group = false ∧
      Text.isBlank c.artifact.name = false ∧ Text.isBlank c.version = false := by
  have hkindOf : ∀ t : String, (if t.isEmpty then defaultKind else t) = kindOf t := by
    intro t
    simp only [kindOf, String.isEmpty_iff]
  simp only [← colonParts_eq_iff]
  constructor
  · intro h
    unfold parse at h
    dsimp only at h
    split at h
    · cases h
    · split at h
      · rename_i group name kind classifier version hfields
        split at h
        · cases h
        · rename_i hblank
          obtain rfl := Except.ok.inj h
          have hall := blankPart?_eq_none_iff.mp hblank
          obtain ⟨middle, hparts, hmiddle⟩ := coordinateFields?_eq_some hfields
          rw [← hkindOf] at hmiddle
          exact ⟨middle, hparts, hmiddle, hall (.group, group) (by simp),
            hall (.name, name) (by simp), hall (.version, version) (by simp)⟩
      · cases h
  · rintro ⟨middle, hparts, hmiddle, hgroup, hname, hversion⟩
    have hnonempty := (colonParts_eq_iff.mp hparts).isEmpty_eq_false hgroup
    obtain ⟨t, k, hfields, hkind, hclassifier⟩ :=
      hmiddle.coordinateFields?_eq_some c.artifact.group c.artifact.name c.version
    have hblank : blankPart?
        [(.group, c.artifact.group), (.name, c.artifact.name), (.version, c.version)] = none :=
      blankPart?_eq_none_iff.mpr (by simp [hgroup, hname, hversion])
    simp only [parse, hnonempty, hparts, hfields, hblank, hkindOf, hkind]
    rw [withKind, withClassifier, hclassifier]
    rfl

theorem parse_text {s : String} {c : Coordinate} (h : parse s = .ok c) : parse c.text = .ok c := by
  obtain ⟨middle, hsplit, hmiddle, hgroup, hname, hversion⟩ := parse_eq_ok_iff.mp h
  have htrimmed : Text.trimmed c.text = c.text := by
    rw [text_eq_intercalate]
    exact trimmed_intercalate (c.artifact.name :: middle)
      (c.artifact.name :: c.writtenMiddle) hsplit hgroup hversion
  refine parse_eq_ok_iff.mpr ⟨c.writtenMiddle, ?_, ?_, hgroup, hname, hversion⟩
  · rw [htrimmed]
    refine ⟨List.cons_ne_nil _ _, ?_, c.text_eq_intercalate.symm⟩
    have hcolon := hsplit.no_colon
    simp only [List.forall_mem_cons, List.forall_mem_append] at hcolon ⊢
    obtain ⟨hgroup, hname, hbetween, hlast⟩ := hcolon
    refine ⟨hgroup, hname, fun part hpart => ?_, hlast⟩
    rcases mem_writtenMiddle hmiddle hpart with rfl | hpart
    · decide
    · exact hbetween part hpart
  · exact middle_writtenMiddle hmiddle.kind_ne_empty hmiddle.classifier_ne_empty

end Coordinate

/-! ## Written forms as keys -/

/-- A text that is read as a coordinate: trimmed it is not empty, and of its three to five parts
between colons the first, the second and the last one are not blank. -/
def IsCoordinateText (s : String) : Prop :=
  Text.trimmed s ≠ "" ∧ ∃ group name middle version,
    SplitsAtColons (Text.trimmed s) (group :: name :: (middle ++ [version])) ∧
    middle.length ≤ 2 ∧ Text.isBlank group = false ∧ Text.isBlank name = false ∧
    Text.isBlank version = false

/-- A text that is read as an artifact: trimmed it is not empty, and it has two parts between
colons, neither of them blank. -/
def IsArtifactText (s : String) : Prop :=
  Text.trimmed s ≠ "" ∧ ∃ group name, SplitsAtColons (Text.trimmed s) [group, name] ∧
    Text.isBlank group = false ∧ Text.isBlank name = false

/-- A written form that is a key to what is read: it is read as the same again, so equal forms are
those of equal values, and it is known which texts are read at all. -/
structure FaithfulKey {ε α : Type} (parse : String → Except ε α) (text : α → String)
    (Accepted : String → Prop) : Prop where
  parse_text : ∀ s a, parse s = .ok a → parse (text a) = .ok a
  text_eq_iff : ∀ s s' a a', parse s = .ok a → parse s' = .ok a' → (text a = text a' ↔ a = a')
  accepted_iff : ∀ s, (∃ a, parse s = .ok a) ↔ Accepted s

theorem FaithfulKey.of_parse_text {ε α : Type} {parse : String → Except ε α} {text : α → String}
    {Accepted : String → Prop} (h : ∀ s a, parse s = .ok a → parse (text a) = .ok a)
    (haccepted : ∀ s, (∃ a, parse s = .ok a) ↔ Accepted s) : FaithfulKey parse text Accepted where
  parse_text := h
  text_eq_iff := by
    intro s s' a a' ha ha'
    refine ⟨fun htext => ?_, congrArg text⟩
    have hread := h s a ha
    rw [htext, h s' a' ha'] at hread
    exact (Except.ok.inj hread).symm
  accepted_iff := haccepted

theorem SplitsAtColons.ne_empty {s first : String} {later : List String}
    (h : SplitsAtColons s (first :: later)) (hfirst : Text.isBlank first = false) : s ≠ "" := by
  rintro rfl
  exact absurd (h.isEmpty_eq_false hfirst) (by decide)

theorem Coordinate.exists_parse_iff {s : String} :
    (∃ c, parse s = .ok c) ↔ IsCoordinateText s := by
  constructor
  · rintro ⟨c, hc⟩
    obtain ⟨middle, hsplit, hmiddle, hgroup, hname, hversion⟩ := parse_eq_ok_iff.mp hc
    refine ⟨hsplit.ne_empty hgroup, _, _, middle, _, hsplit, ?_, hgroup, hname, hversion⟩
    exact hmiddle.length_le
  · rintro ⟨_, group, name, middle, version, hsplit, hlength, hgroup, hname, hversion⟩
    have hmiddle : ∃ kind classifier, Middle middle kind classifier := by
      match middle, hlength with
      | [], _ => exact ⟨_, _, .plain⟩
      | [t], _ => exact ⟨_, _, .typed t⟩
      | [t, k], _ => exact ⟨_, _, .classified t k⟩
    obtain ⟨kind, classifier, hmiddle⟩ := hmiddle
    exact ⟨⟨⟨group, name⟩, version, kind, classifier⟩,
      parse_eq_ok_iff.mpr ⟨middle, hsplit, hmiddle, hgroup, hname, hversion⟩⟩

theorem Artifact.exists_parse_iff {s : String} : (∃ a, parse s = .ok a) ↔ IsArtifactText s := by
  constructor
  · rintro ⟨a, ha⟩
    obtain ⟨hsplit, hgroup, hname⟩ := parse_eq_ok_iff.mp ha
    exact ⟨hsplit.ne_empty hgroup, a.group, a.name, hsplit, hgroup, hname⟩
  · rintro ⟨_, group, name, hsplit, hgroup, hname⟩
    exact ⟨⟨group, name⟩, parse_eq_ok_iff.mpr ⟨hsplit, hgroup, hname⟩⟩

/-- The texts of coordinates and of artifacts are faithful keys, and what is read as one is said by
the parts between colons. -/
theorem identities_faithful :
    FaithfulKey Coordinate.parse Coordinate.text IsCoordinateText ∧
      FaithfulKey Artifact.parse Artifact.text IsArtifactText := by
  constructor
  · apply FaithfulKey.of_parse_text
    · exact fun s c h => Coordinate.parse_text h
    · exact fun s => Coordinate.exists_parse_iff
  · apply FaithfulKey.of_parse_text
    · exact fun s a h => Artifact.parse_text h
    · exact fun s => Artifact.exists_parse_iff

/-- An empty type and an empty classifier are left out, and inner blanks stay. -/
example :
    (Coordinate.parse "\torg.foo: bar:::1.0 ").map Coordinate.text = .ok "org.foo: bar:1.0" := by
  decide +kernel

end BuildAlign
