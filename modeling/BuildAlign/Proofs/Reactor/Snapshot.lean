import BuildAlign.Proofs.Json.Record
import BuildAlign.Proofs.Reactor.Tree
import BuildAlign.Proofs.Table
import BuildAlign.Reactor.Json

/-!
Snapshots of reactors are read back. Every record is written as its fields that have a value, and
what is left out is what reading fills in: nothing for a text that may be missing, an empty list or
table for a collection. Packaging and type are always written, so that their defaults play no part.
-/

namespace BuildAlign

open Json (present)

/-! ## Lists and properties -/

def Json.listField {α : Type} (write : α → Json) (items : List α) : Option Json :=
  if items.isEmpty then none else some (.list (items.map write))

theorem Json.listMember_eq {α : Type} (name : String) (write : α → Json) (items : List α) :
    listMember name write items = present [(name, listField write items)] := by
  cases items <;> rfl

/-- A list that may be left out is read back. -/
theorem Json.elim_listField {α : Type} {read : Json → Option α} {write : α → Json}
    {items : List α} (h : ∀ a ∈ items, read (write a) = some a) :
    (listField write items).elim (some []) (listOf? read) = some items := by
  cases items with
  | nil => rfl
  | cons a later => exact listOf?_map h

def Properties.field (t : Properties) : Option Json :=
  if t.isEmpty then none else some (.object (t.entries.map fun e => (e.1, .text e.2)))

theorem Properties.elim_field (t : Properties) :
    t.field.elim (some ∅) (Json.tableOf? Json.text?) = some t := by
  rw [field]
  split
  · rename_i hempty
    rw [Option.elim_none, ← Table.ofList_entries t, List.isEmpty_iff.mp hempty]
    rfl
  · have hentries : ∀ entries : List (String × String),
        ((entries.map fun e => (e.1, Json.text e.2)).mapM fun m => m.2.text?.map (m.1, ·)) =
          some entries := by
      intro entries
      induction entries with
      | nil => rfl
      | cons e later ih =>
        rw [List.map_cons, List.mapM_cons, ih]
        rfl
    rw [Option.elim_some, Json.tableOf?, hentries, Option.map_some, Table.ofList_entries]

/-! ## Records -/

def Dependency.fields (d : Dependency) : List (String × Option Json) :=
  [("groupId", some (.text d.group)), ("artifactId", some (.text d.name)),
    ("version", d.version.map .text), ("type", some (.text d.kind)),
    ("classifier", d.classifier.map .text), ("scope", d.scope.map .text)]

theorem Dependency.toJson_eq (d : Dependency) : d.toJson = .object (present d.fields) := by
  simp [toJson, fields, present, Json.optional]

theorem Dependency.ofJson?_toJson (d : Dependency) : ofJson? d.toJson = some d := by
  have hnames : (d.fields.map Prod.fst).Nodup := by simp [fields]
  have hgroup : ("groupId", some (.text d.group)) ∈ d.fields := by simp [fields]
  have hname : ("artifactId", some (.text d.name)) ∈ d.fields := by simp [fields]
  have hversion : ("version", d.version.map .text) ∈ d.fields := by simp [fields]
  have hkind : ("type", some (.text d.kind)) ∈ d.fields := by simp [fields]
  have hclassifier : ("classifier", d.classifier.map .text) ∈ d.fields := by simp [fields]
  have hscope : ("scope", d.scope.map .text) ∈ d.fields := by simp [fields]
  rw [toJson_eq, ofJson?, Json.record?_present hnames, Option.bind_eq_bind, Option.bind_some,
    Json.required_present hnames hgroup, Json.required_present hnames hname,
    Json.nullable_present hnames hversion, Json.withDefault_present hnames hkind,
    Json.nullable_present hnames hclassifier, Json.nullable_present hnames hscope]
  rfl

def Plugin.fields (p : Plugin) : List (String × Option Json) :=
  [("groupId", some (.text p.group)), ("artifactId", some (.text p.name)),
    ("version", p.version.map .text),
    ("dependencies", Json.listField Dependency.toJson p.dependencies)]

theorem Plugin.toJson_eq (p : Plugin) : p.toJson = .object (present p.fields) := by
  simp [toJson, fields, present, Json.optional, Json.listMember_eq]

theorem Plugin.ofJson?_toJson (p : Plugin) : ofJson? p.toJson = some p := by
  have hnames : (p.fields.map Prod.fst).Nodup := by simp [fields]
  have hgroup : ("groupId", some (.text p.group)) ∈ p.fields := by simp [fields]
  have hname : ("artifactId", some (.text p.name)) ∈ p.fields := by simp [fields]
  have hversion : ("version", p.version.map .text) ∈ p.fields := by simp [fields]
  have hdependencies : ("dependencies", Json.listField Dependency.toJson p.dependencies) ∈
      p.fields := by simp [fields]
  rw [toJson_eq, ofJson?, Json.record?_present hnames, Option.bind_eq_bind, Option.bind_some,
    Json.withDefault_present hnames hgroup, Json.required_present hnames hname,
    Json.nullable_present hnames hversion, Json.withDefault_present hnames hdependencies,
    Json.elim_listField fun d _ => d.ofJson?_toJson]
  rfl

def Body.fields (b : Body) : List (String × Option Json) :=
  [("dependencies", Json.listField Dependency.toJson b.dependencies),
    ("managedDependencies", Json.listField Dependency.toJson b.managedDependencies),
    ("plugins", Json.listField Plugin.toJson b.plugins),
    ("managedPlugins", Json.listField Plugin.toJson b.managedPlugins),
    ("properties", b.properties.field)]

theorem Body.toRecord_eq (b : Body) : b.toRecord = present b.fields := by
  have hproperties : (if b.properties.isEmpty then []
      else [("properties", .object (b.properties.entries.map fun e => (e.1, .text e.2)))]) =
        present [("properties", b.properties.field)] := by
    rw [Properties.field]
    split <;> rfl
  rw [toRecord, hproperties, Json.listMember_eq, Json.listMember_eq, Json.listMember_eq,
    Json.listMember_eq, ← Json.present_append, ← Json.present_append, ← Json.present_append,
    ← Json.present_append]
  rfl

/-- A body is read back from among the fields of the record that it is a part of. -/
theorem Body.ofRecord?_present (b : Body) {fields : List (String × Option Json)}
    (hnames : (fields.map Prod.fst).Nodup) (hfields : ∀ f ∈ b.fields, f ∈ fields) :
    ofRecord? (present fields) = some b := by
  simp only [Body.fields, List.forall_mem_cons] at hfields
  obtain ⟨hdependencies, hmanaged, hplugins, hmanagedPlugins, hproperties, _⟩ := hfields
  have hdependency : ∀ ds : List Dependency, ∀ d ∈ ds, Dependency.ofJson? d.toJson = some d :=
    fun _ d _ => d.ofJson?_toJson
  have hplugin : ∀ ps : List Plugin, ∀ p ∈ ps, Plugin.ofJson? p.toJson = some p :=
    fun _ p _ => p.ofJson?_toJson
  rw [ofRecord?, Json.withDefault_present hnames hdependencies,
    Json.withDefault_present hnames hmanaged, Json.withDefault_present hnames hplugins,
    Json.withDefault_present hnames hmanagedPlugins, Json.withDefault_present hnames hproperties,
    Json.elim_listField (hdependency _), Json.elim_listField (hdependency _),
    Json.elim_listField (hplugin _), Json.elim_listField (hplugin _), Properties.elim_field]
  rfl

def Profile.fields (p : Profile) : List (String × Option Json) :=
  ("id", some (.text p.id)) :: p.body.fields

theorem Profile.toJson_eq (p : Profile) : p.toJson = .object (present p.fields) := by
  rw [toJson, Body.toRecord_eq]
  rfl

theorem Profile.ofJson?_toJson (p : Profile) : ofJson? p.toJson = some p := by
  have hnames : (p.fields.map Prod.fst).Nodup := by simp [fields, Body.fields]
  have hid : ("id", some (.text p.id)) ∈ p.fields := List.mem_cons_self ..
  have hbody : ∀ f ∈ p.body.fields, f ∈ p.fields := fun _ hf => List.mem_cons_of_mem _ hf
  rw [toJson_eq, ofJson?, Json.fields?_present hnames, Option.bind_eq_bind, Option.bind_some,
    Json.required_present hnames hid, p.body.ofRecord?_present hnames hbody]
  rfl

def Parent.fields (p : Parent) : List (String × Option Json) :=
  [("groupId", some (.text p.group)), ("artifactId", some (.text p.name)),
    ("version", some (.text p.version))]

theorem Parent.toJson_eq (p : Parent) : p.toJson = .object (present p.fields) := rfl

theorem Parent.ofJson?_toJson (p : Parent) : ofJson? p.toJson = some p := by
  have hnames : (p.fields.map Prod.fst).Nodup := by simp [fields]
  have hgroup : ("groupId", some (.text p.group)) ∈ p.fields := by simp [fields]
  have hname : ("artifactId", some (.text p.name)) ∈ p.fields := by simp [fields]
  have hversion : ("version", some (.text p.version)) ∈ p.fields := by simp [fields]
  rw [toJson_eq, ofJson?, Json.record?_present hnames, Option.bind_eq_bind, Option.bind_some,
    Json.required_present hnames hgroup, Json.required_present hnames hname,
    Json.required_present hnames hversion]
  rfl

/-- A value that may be left out or null is read back, if no value is written as null. -/
theorem Json.elim_nullable? {α : Type} {read : Json → Option α} {write : α → Json}
    (h : ∀ a, read (write a) = some a) (hnull : ∀ a, write a ≠ .null) (value : Option α) :
    (value.map write).elim (some none) (nullable? read) = some value := by
  cases value with
  | none => rfl
  | some a => simp [nullable?, hnull, h]

def Module.fields (m : Module) : List (String × Option Json) :=
  [("groupId", m.group.map .text), ("artifactId", some (.text m.name)),
    ("version", m.version.map .text), ("packaging", some (.text m.packaging)),
    ("parent", m.parent.map Parent.toJson), ("parentModule", m.parentModule.map .natural)]
    ++ m.body.fields ++ [("profiles", Json.listField Profile.toJson m.profiles)]

theorem Module.toJson_eq (m : Module) : m.toJson = .object (present m.fields) := by
  rw [fields, Json.present_append, Json.present_append, ← Body.toRecord_eq, ← Json.listMember_eq]
  simp [toJson, present, Json.optional]

/-- A written module is read back, fields that are left out included. -/
theorem Module.ofJson?_toJson (m : Module) : ofJson? m.toJson = some m := by
  have hnames : (m.fields.map Prod.fst).Nodup := by simp [fields, Body.fields]
  have hgroup : ("groupId", m.group.map .text) ∈ m.fields := by simp [fields]
  have hname : ("artifactId", some (.text m.name)) ∈ m.fields := by simp [fields]
  have hversion : ("version", m.version.map .text) ∈ m.fields := by simp [fields]
  have hpackaging : ("packaging", some (.text m.packaging)) ∈ m.fields := by simp [fields]
  have hparent : ("parent", m.parent.map Parent.toJson) ∈ m.fields := by simp [fields]
  have hparentModule : ("parentModule", m.parentModule.map .natural) ∈ m.fields := by
    simp [fields]
  have hnatural : ∀ n, Json.natural? (.natural n) = some n := fun _ => rfl
  have hbody : ∀ f ∈ m.body.fields, f ∈ m.fields := fun f hf => by simp [fields, hf]
  have hprofiles : ("profiles", Json.listField Profile.toJson m.profiles) ∈ m.fields := by
    simp [fields]
  rw [toJson_eq, ofJson?, Json.fields?_present hnames, Option.bind_eq_bind, Option.bind_some,
    Json.nullable_present hnames hgroup, Json.required_present hnames hname,
    Json.nullable_present hnames hversion, Json.withDefault_present hnames hpackaging,
    Json.withDefault_present hnames hparent, Json.withDefault_present hnames hparentModule,
    m.body.ofRecord?_present hnames hbody, Json.withDefault_present hnames hprofiles,
    Json.elim_nullable? Parent.ofJson?_toJson nofun,
    Json.elim_nullable? hnatural nofun,
    Json.elim_listField fun p _ => p.ofJson?_toJson]
  rfl

/-! ## Reactors -/

namespace Reactor

/-- The modules are read back, and they are a reactor because they were one. -/
theorem ofJson?_toJson (r : Reactor) : ofJson? r.toJson = some (.ok r) := by
  have hnames : (([("modules", some (.list (r.modules.map Module.toJson)))] :
      List (String × Option Json)).map Prod.fst).Nodup := List.nodup_singleton _
  have hrecord : r.toJson =
      .object (present [("modules", some (.list (r.modules.map Module.toJson)))]) := rfl
  rw [ofJson?, modulesOfJson?, hrecord, Json.record?_present hnames, Option.bind_eq_bind,
    Option.bind_some, Json.required_present hnames (List.mem_singleton.mpr rfl),
    Json.listOf?_map fun m _ => m.ofJson?_toJson, Option.map_some, ofModules_modules]

/-- A reactor is read back from its snapshot. Whatever snapshot a reactor was read from, in which
defaults may be left out or written, the snapshot that is written for it is read alike. -/
theorem snapshot_roundtrip :
    (∀ r : Reactor, ofJson? r.toJson = some (.ok r)) ∧
      ∀ (x : Json) (r : Reactor), ofJson? x = some (.ok r) → ofJson? r.toJson = ofJson? x :=
  ⟨ofJson?_toJson, fun _ r hread => r.ofJson?_toJson.trans hread.symm⟩

end Reactor

end BuildAlign
