import BuildAlign.Json.Write
import BuildAlign.Proofs.Json.Record
import BuildAlign.Proofs.Override.Entries
import BuildAlign.Service.Response
import Mathlib.Data.List.Forall2

/-!
What a reactor asks the alignment service for, and what it finds in the answers. A body of answers,
one for each artifact at a version that is asked for, can be read, and no answer is lost on the way:
the best version of a dependency from outside of the reactor is among the overrides, and the best
version of a module is among its published versions.
-/

namespace BuildAlign

/-! ## Requests -/

namespace ServiceRequest

variable {r : Reactor} {keepSnapshot : Bool} {id : Nat}

theorem mem_gavs {gav : Gav} :
    gav ∈ gavs r keepSnapshot ↔ ∃ id ∈ r.ids, gav ∈ moduleGavs r keepSnapshot id := by
  rw [gavs, KeySet.mem_keys_ofList, List.mem_flatMap]

/-- Every module with a version is asked for. -/
theorem mem_gavs_of_version {version : String} (hid : id ∈ r.ids)
    (hversion : r.version? id = some version) :
    { artifact := r.artifact id, version := requested keepSnapshot version } ∈
      gavs r keepSnapshot := by
  refine mem_gavs.mpr ⟨id, hid, List.mem_append_left _ (Option.mem_toList.mpr ?_)⟩
  rw [moduleGav?, hversion]
  rfl

/-- Every dependency with a version that can be resolved is asked for. -/
theorem mem_gavs_of_declaration {d : Declaration} {raw : String} (hid : id ∈ r.ids)
    (hd : d ∈ (r.module id).dependencyDeclarations) (hraw : d.version = some raw)
    (hnonempty : r.resolve id raw ≠ "")
    (hliteral : Template.hasReference (r.resolve id raw) = false) :
    { artifact := r.declaredArtifact id d, version := requested keepSnapshot (r.resolve id raw) } ∈
      gavs r keepSnapshot := by
  refine mem_gavs.mpr ⟨id, hid, List.mem_append_right _ (List.mem_filterMap.mpr ⟨d, hd, ?_⟩)⟩
  have hisEmpty : (r.resolve id raw).isEmpty = false := by
    simpa [← Bool.not_eq_true, String.isEmpty_iff] using hnonempty
  rw [declaredGav?, hraw, Option.map_some, Option.bind_some, hisEmpty, hliteral]
  rfl

end ServiceRequest

/-! ## Texts of answers -/

namespace Json

theorem value?_page (n depth : Nat) (rest : List Char) : value? n depth ('<' :: rest) = none := by
  cases n with
  | zero => rfl
  | succ n =>
    have hskip : skipGaps ('<' :: rest) = '<' :: rest := rfl
    have hscalar : scalar? ('<' :: rest) = none := rfl
    rw [value?, hskip]
    exact hscalar

/-- The text of a JSON value is not empty, and it is no page for a browser. -/
theorem read?_start {source : String} {x : Json} (h : read? source = some x) :
    source.isEmpty = false ∧ (source.toList.head? == some '<') = false := by
  obtain ⟨⟨y, rest⟩, hvalue, _⟩ := Option.bind_eq_some_iff.mp h
  constructor
  · cases hempty : source.isEmpty with
    | false => rfl
    | true =>
      rw [String.isEmpty_iff.mp hempty] at hvalue
      cases hvalue
  · cases hs : source.toList with
    | nil => rfl
    | cons c later =>
      refine beq_eq_false_iff_ne.mpr fun hpage => ?_
      obtain rfl : c = '<' := Option.some.inj hpage
      rw [hs, value?_page] at hvalue
      cases hvalue

end Json

namespace ServiceMatch

/-! ## Single answers -/

/-- A JSON value answers a request with a best version: it echoes the request, and its other
versions, if it has any, are texts. It may have further members. -/
structure Answers (gav : Gav) (best : String) (members : Json.Record) : Prop where
  unrepeated : ∀ name ∈ fieldNames, Json.repeated members name = false
  group : members.get? "groupId" = some (.text gav.artifact.group)
  name : members.get? "artifactId" = some (.text gav.artifact.name)
  version : members.get? "version" = some (.text gav.version)
  best : members.get? "bestMatchVersion" = some (.text best)
  available : ∀ x, members.get? "availableVersions" = some x → ∃ texts, x = Json.texts texts

/-- An answer to a request is read as one, with its best version if that is not blank. -/
theorem Answers.ofJson? {gav : Gav} {best : String} {members : Json.Record}
    (h : Answers gav best members) (hbest : Text.isBlank best = false) :
    ∃ available, ofJson? (.object members) = some (some { request := gav, best, available }) := by
  have hfields : Json.fields? fieldNames (.object members) = some members := by
    have hnone : fieldNames.any (Json.repeated members) = false :=
      List.any_eq_false.mpr fun name hname => by simp [h.unrepeated name hname]
    simp [Json.fields?, hnone]
  obtain ⟨available, havailable⟩ :
      ∃ available, members.withDefault "availableVersions" (Json.listOf? Json.text?) [] =
        some available := by
    rw [Json.Record.withDefault]
    split
    · rename_i x hx
      obtain ⟨texts, rfl⟩ := h.available x hx
      exact ⟨texts, Json.listOf?_map fun _ _ => rfl⟩
    · exact ⟨[], rfl⟩
  have hnullable : members.nullable "bestMatchVersion" = some (some best) := by
    rw [Json.Record.nullable, Json.Record.withDefault, h.best]
    rfl
  refine ⟨available, ?_⟩
  simp only [ServiceMatch.ofJson?, hfields, Json.Record.required, h.group, h.name, h.version,
    hnullable, havailable, Option.bind_eq_bind, Option.bind_some, Json.text?, Option.filter, hbest]
  rfl

/-! ## Bodies -/

/-- One answer for every request, in any order. -/
def AnswersAll (requests : List Gav) (best : Gav → String) (answers : List Json.Record) : Prop :=
  ∃ order : List Gav,
    order.Perm requests ∧ List.Forall₂ (fun gav x => Answers gav (best gav) x) order answers

/-- No answer is left out of a list that is read, and none changes its request or best version. -/
theorem listOfJson?_answers {best : Gav → String} {order : List Gav} {answers : List Json.Record}
    (h : List.Forall₂ (fun gav x => Answers gav (best gav) x) order answers)
    (hbest : ∀ gav ∈ order, Text.isBlank (best gav) = false) :
    ∃ found, listOfJson? (.list (answers.map .object)) = some found ∧
      found.map (fun a => (a.request, a.best)) = order.map fun gav => (gav, best gav) := by
  simp only [listOfJson?, Json.listOf?]
  induction h with
  | nil => exact ⟨[], rfl, rfl⟩
  | @cons gav x order answers hx _ ih =>
    obtain ⟨hgav, hlater⟩ := List.forall_mem_cons.mp hbest
    obtain ⟨found, hfound, hpairs⟩ := ih hlater
    obtain ⟨read, hread, rfl⟩ := Option.map_eq_some_iff.mp hfound
    obtain ⟨available, hofJson⟩ := hx.ofJson? hgav
    refine ⟨{ request := gav, best := best gav, available } :: read.filterMap id, ?_, ?_⟩
    · rw [List.map_cons, List.mapM_cons, hofJson, hread]
      rfl
    · rw [List.map_cons, List.map_cons, hpairs]

/-- A body that is a JSON list is read as a list of answers: it is not empty, no page and no
message. -/
theorem parse?_of_list {body : String} {items : List Json}
    (h : Json.read? (Text.trimmed body) = some (.list items)) :
    parse? body = listOfJson? (.list items) := by
  obtain ⟨hempty, hpage⟩ := Json.read?_start h
  have hmessage : isMessage (Text.trimmed body) = false := by
    rw [isMessage, h]
  rw [parse?]
  simp only [hempty, hpage, hmessage, h]
  rfl

/-! ## What a reactor takes from answers -/

variable {r : Reactor} {found : List ServiceMatch}

/-- The overrides are the best versions of what is no module of the reactor. -/
theorem mem_targets_overrides {target : Coordinate} :
    target ∈ (overrides found r).entries.map OverrideEntry.target ↔
      ∃ a ∈ found, a.request.artifact ∉ r.ids.map r.artifact ∧
        a.request.artifact.at a.best = target := by
  have hforeign : ∀ a : ServiceMatch,
      (!r.artifacts.contains a.request.artifact) = true ↔
        a.request.artifact ∉ r.ids.map r.artifact := by
    intro a
    rw [Bool.not_eq_true', ← Bool.not_eq_true, Reactor.artifacts, KeySet.contains_ofList]
  rw [overrides, OverrideMap.mem_targets_ofCoordinates, List.mem_map]
  simp only [List.mem_filter, hforeign, and_assoc]

theorem mem_publish {known : Table Artifact (KeySet String)} {artifact artifact' : Artifact}
    {versions : List String} {version : String} :
    version ∈ ((publish known artifact versions).getD artifact' ∅).keys ↔
      (artifact = artifact' ∧ version ∈ versions) ∨ version ∈ (known.getD artifact' ∅).keys := by
  rw [publish, Table.getD, Table.get?_insert]
  by_cases hsame : artifact' = artifact
  · subst hsame
    rw [if_pos rfl, Option.getD_some, KeySet.mem_keys_foldl_add]
    simp
  · rw [if_neg hsame, Table.getD]
    simp [Ne.symm hsame]

/-- What is published after some answers: the versions that they list for the artifact, and those of
before. -/
theorem mem_foldl_publish {answers : List ServiceMatch} {known : Table Artifact (KeySet String)}
    {artifact : Artifact} {version : String} :
    version ∈ ((answers.foldl (fun known a => publish known a.request.artifact a.versions)
        known).getD artifact ∅).keys ↔
      (∃ a ∈ answers, a.request.artifact = artifact ∧ version ∈ a.versions) ∨
        version ∈ (known.getD artifact ∅).keys := by
  induction answers generalizing known with
  | nil => simp
  | cons first later ih =>
    rw [List.foldl_cons, ih, mem_publish, List.exists_mem_cons_iff, ← or_assoc]
    exact or_congr_left or_comm

/-- The published versions are all versions in answers for modules of the reactor. -/
theorem mem_published {artifact : Artifact} {version : String} :
    version ∈ ((published found r).getD artifact ∅).keys ↔
      artifact ∈ r.ids.map r.artifact ∧
        ∃ a ∈ found, a.request.artifact = artifact ∧ version ∈ a.versions := by
  have hnone : version ∉ ((∅ : Table Artifact (KeySet String)).getD artifact ∅).keys :=
    List.not_mem_nil
  rw [published, mem_foldl_publish, or_iff_left hnone]
  simp only [List.mem_filter, Reactor.artifacts, KeySet.contains_ofList]
  constructor
  · rintro ⟨a, ⟨hmem, hmodule⟩, rfl, hversion⟩
    exact ⟨hmodule, a, hmem, rfl, hversion⟩
  · rintro ⟨hmodule, a, hmem, rfl, hversion⟩
    exact ⟨a, ⟨hmem, hmodule⟩, rfl, hversion⟩

theorem exists_override {a : ServiceMatch} (ha : a ∈ found)
    (hforeign : a.request.artifact ∉ r.ids.map r.artifact) :
    ∃ e ∈ (overrides found r).entriesOf a.request.artifact, e.version = a.best := by
  have htarget : a.request.artifact.at a.best ∈
      (overrides found r).entries.map OverrideEntry.target :=
    mem_targets_overrides.mpr ⟨a, ha, hforeign, rfl⟩
  obtain ⟨e, he, heq⟩ := List.mem_map.mp htarget
  refine ⟨e, List.mem_filter.mpr ⟨he, beq_iff_eq.mpr ?_⟩, ?_⟩
  · rw [OverrideEntry.artifact, heq]
    rfl
  · rw [OverrideEntry.version, heq]
    rfl

theorem exists_published {a : ServiceMatch} (ha : a ∈ found)
    (hmodule : a.request.artifact ∈ r.ids.map r.artifact) :
    ∃ versions, (published found r).get? a.request.artifact = some versions ∧
      a.best ∈ versions.keys := by
  have hmem : a.best ∈ ((published found r).getD a.request.artifact ∅).keys :=
    mem_published.mpr ⟨hmodule, a, ha, rfl, List.mem_cons_self ..⟩
  rw [Table.getD] at hmem
  cases hget : (published found r).get? a.request.artifact with
  | none =>
    rw [hget] at hmem
    exact absurd hmem List.not_mem_nil
  | some versions =>
    rw [hget] at hmem
    exact ⟨versions, rfl, hmem⟩

end ServiceMatch

/-- A body with one answer for everything that a reactor asks for, each with a best version that is
not blank, is accepted. Every dependency from outside of the reactor whose version can be resolved
has an override to the best version for it, nothing in the reactor has an override, and every module
with a version has the best version for it among its published ones. -/
theorem ServiceMatch.answered {r : Reactor} {keepSnapshot : Bool} {best : Gav → String}
    {body : String} {answers : List Json.Record}
    (hbest : ∀ gav ∈ ServiceRequest.gavs r keepSnapshot, Text.isBlank (best gav) = false)
    (hbody : Json.read? (Text.trimmed body) = some (.list (answers.map .object)))
    (hanswers : AnswersAll (ServiceRequest.gavs r keepSnapshot) best answers) :
    ∃ found, parse? body = some found ∧
      (∀ id ∈ r.ids, ∀ d ∈ (r.module id).dependencyDeclarations, ∀ raw, d.version = some raw →
        r.resolve id raw ≠ "" → Template.hasReference (r.resolve id raw) = false →
        r.declaredArtifact id d ∉ r.ids.map r.artifact →
        ∃ e ∈ (overrides found r).entriesOf (r.declaredArtifact id d),
          e.version = best
            { artifact := r.declaredArtifact id d
              version := ServiceRequest.requested keepSnapshot (r.resolve id raw) }) ∧
      (∀ e ∈ (overrides found r).entries, e.artifact ∉ r.ids.map r.artifact) ∧
      ∀ id ∈ r.ids, ∀ version, r.version? id = some version →
        ∃ versions, (published found r).get? (r.artifact id) = some versions ∧
          best
            { artifact := r.artifact id
              version := ServiceRequest.requested keepSnapshot version } ∈ versions.keys := by
  obtain ⟨order, hperm, heach⟩ := hanswers
  have hbestOrder : ∀ gav ∈ order, Text.isBlank (best gav) = false := fun gav hgav =>
    hbest gav (hperm.mem_iff.mp hgav)
  obtain ⟨found, hfound, hpairs⟩ := listOfJson?_answers heach hbestOrder
  have hserved : ∀ gav ∈ ServiceRequest.gavs r keepSnapshot,
      ∃ a ∈ found, a.request = gav ∧ a.best = best gav := by
    intro gav hgav
    have hmem : (gav, best gav) ∈ order.map fun gav => (gav, best gav) :=
      List.mem_map_of_mem (hperm.mem_iff.mpr hgav)
    obtain ⟨a, ha, heq⟩ := List.mem_map.mp (hpairs ▸ hmem)
    exact ⟨a, ha, (Prod.mk.inj heq).1, (Prod.mk.inj heq).2⟩
  refine ⟨found, (parse?_of_list hbody).trans hfound, ?declared, ?foreign, ?modules⟩
  case declared =>
    intro id hid d hd raw hraw hnonempty hliteral hforeign
    obtain ⟨a, ha, hrequest, hversion⟩ :=
      hserved _ (ServiceRequest.mem_gavs_of_declaration hid hd hraw hnonempty hliteral)
    have hartifact : a.request.artifact = r.declaredArtifact id d := by rw [hrequest]
    rw [← hversion, ← hartifact]
    exact exists_override ha (hartifact ▸ hforeign)
  case foreign =>
    intro e he
    obtain ⟨a, _, hforeign, heq⟩ := mem_targets_overrides.mp (List.mem_map_of_mem he)
    rwa [OverrideEntry.artifact, ← heq]
  case modules =>
    intro id hid version hversion
    obtain ⟨a, ha, hrequest, hbest⟩ := hserved _ (ServiceRequest.mem_gavs_of_version hid hversion)
    have hartifact : a.request.artifact = r.artifact id := by rw [hrequest]
    rw [← hbest, ← hartifact]
    exact exists_published ha (hartifact ▸ List.mem_map_of_mem hid)

def webWithLib : Reactor where
  modules := [
    { group := some "a", name := "web", version := some "1-SNAPSHOT"
      body :=
        { properties := Table.ofList [("lib.version", "2")]
          dependencies :=
            [{ group := "b", name := "lib", version := some "$\x7blib.version\x7d" }] } }]
  forest := Reactor.forest_of_checks (by simp) (by decide) (by decide)

def webAnswers : List Json.Record := [
  [("groupId", .text "b"), ("artifactId", .text "lib"), ("version", .text "2"),
    ("bestMatchVersion", .text "2.1")],
  [("groupId", .text "a"), ("artifactId", .text "web"), ("version", .text "1"),
    ("bestMatchVersion", .text "1.1")]]

theorem ServiceMatch.answered_webWithLib :
    ∃ found, parse? (Json.compact (.list (webAnswers.map .object))) = some found ∧
      (∃ e ∈ (overrides found webWithLib).entriesOf { group := "b", name := "lib" },
        e.version = "2.1") ∧
      ∃ versions, (published found webWithLib).get? { group := "a", name := "web" } =
        some versions ∧ "1.1" ∈ versions.keys := by
  have hgavs : ServiceRequest.gavs webWithLib false =
      [{ artifact := { group := "a", name := "web" }, version := "1" },
        { artifact := { group := "b", name := "lib" }, version := "2" }] := by
    decide +kernel
  have hall : AnswersAll (ServiceRequest.gavs webWithLib false) (·.version ++ ".1") webAnswers := by
    rw [hgavs]
    refine ⟨_, List.Perm.swap .., .cons ?lib (.cons ?web .nil)⟩ <;>
      exact ⟨by decide +kernel, rfl, rfl, rfl, rfl, fun x hx => by cases hx⟩
  have hbody : Json.read? (Text.trimmed (Json.compact (.list (webAnswers.map .object)))) =
      some (.list (webAnswers.map .object)) := by
    cbv
  obtain ⟨found, hparse, hdeclared, _, hmodules⟩ :=
    answered (by rw [hgavs]; decide +kernel) hbody hall
  let d : Declaration :=
    { address := { scope := .main, collection := .dependencies, index := 0 }
      group := "b", name := "lib", version := some "$\x7blib.version\x7d"
      kind := "jar", classifier := none }
  have hd : d ∈ (webWithLib.module 0).dependencyDeclarations := by decide +kernel
  have hartifact : webWithLib.declaredArtifact 0 d = { group := "b", name := "lib" } := by
    decide +kernel
  have hresolve : webWithLib.resolve 0 "$\x7blib.version\x7d" = "2" := by decide +kernel
  have hlib := hdeclared 0 (by decide) d hd _ rfl
  rw [hartifact, hresolve] at hlib
  have hweb := hmodules 0 (by decide) "1-SNAPSHOT" (by decide +kernel)
  have hsnapshot : ServiceRequest.requested false "1-SNAPSHOT" = "1" := by decide +kernel
  have hplain : ServiceRequest.requested false "2" = "2" := by decide +kernel
  rw [hsnapshot] at hweb
  rw [hplain] at hlib
  exact ⟨found, hparse, hlib (by decide) (by decide +kernel) (by decide +kernel), hweb⟩

end BuildAlign
