import Mathlib.Data.List.Nodup
import QueryAlgebra.Document

/-!
# Catalogs over a run of additions

A catalog is filled by additions, some of which are refused. A refused table leaves the catalog as
it stands, an accepted one goes behind the tables that are there, so that no two tables ever share
both name and schema.

Look-ups answer by the first table of a name and schema. That no two tables share them makes this
the only one, which is why the tables of a schema survive a look-up by their names.
-/

namespace QueryAlgebra

namespace Catalog

/-- The names of all tables, within their schemas. -/
def keys (catalog : Catalog) : List QualifiedName :=
  catalog.tables.map Table.toQualifiedName

/-- The catalog after a table was offered to it, whether the table was accepted or refused. -/
def offer (catalog : Catalog) (table : Table) : Catalog :=
  (catalog.add table).2

/-- The catalog after tables were offered to it one after the other. -/
def offerAll (catalog : Catalog) (tables : List Table) : Catalog :=
  tables.foldl offer catalog

/-- What a catalog does and answers, given by the tables that it holds. -/
structure Coherent (catalog : Catalog) : Prop where
  /-- No two tables share name and schema. -/
  keys_nodup : catalog.keys.Nodup
  /-- A table is refused by its qualified name if the name is taken, and the catalog is returned as
  it was; else the table goes to the end. -/
  add_eq : ∀ table : Table,
    catalog.add table =
      if table.toQualifiedName ∈ catalog.keys then
        (.error (.duplicateTable table.display), catalog)
      else (.ok (), { tables := catalog.tables ++ [table] })
  /-- A table that is refused leaves the catalog as it stands, whatever is offered next. -/
  offerAll_eq : ∀ (table : Table) (next : List Table),
    catalog.offerAll (table :: next) =
      if table.toQualifiedName ∈ catalog.keys then catalog.offerAll next
      else offerAll { tables := catalog.tables ++ [table] } next
  /-- A look-up finds the one table with the name and schema, if there is one. -/
  find?_eq_some_iff : ∀ (name : String) (schema : Option String) (table : Table),
    catalog.find? name schema = some table ↔
      table ∈ catalog.tables ∧ table.name = name ∧ table.schema = schema
  /-- The schema has a table with the name if it lists the name. -/
  contains_iff : ∀ (name : String) (schema : Option String),
    catalog.contains name schema = true ↔ name ∈ catalog.names schema
  /-- A schema lists no name twice. -/
  names_nodup : ∀ schema : Option String, (catalog.names schema).Nodup
  /-- The tables of a schema are those that are stored under it, in the same order. -/
  tablesIn_eq : ∀ schema : Option String,
    catalog.tablesIn schema = catalog.tables.filter (·.schema == schema)

variable {catalog : Catalog}

/-- A table answers to a name and schema if these make up its qualified name. -/
theorem answers_iff {table : Table} {name : String} {schema : Option String} :
    (table.name == name && table.schema == schema) = true ↔
      table.toQualifiedName = { name, schema } := by
  rw [Bool.and_eq_true, beq_iff_eq, beq_iff_eq]
  exact (QualifiedName.mk.injEq _ _ _ _).to_iff.symm

/-- A name is taken within a schema exactly if it is among the keys. -/
theorem contains_iff_mem_keys (catalog : Catalog) (name : String) (schema : Option String) :
    catalog.contains name schema = true ↔ { name, schema } ∈ catalog.keys := by
  rw [contains, find?, List.find?_isSome, keys, List.mem_map]
  exact exists_congr fun table => and_congr_right fun _ => answers_iff

/-- A table that is found is stored, under the name and schema that were asked for. -/
theorem mem_of_find?_eq_some {table : Table} {name : String} {schema : Option String}
    (h : catalog.find? name schema = some table) :
    table ∈ catalog.tables ∧ table.toQualifiedName = { name, schema } := by
  rw [find?] at h
  have hanswers := List.find?_some h
  exact ⟨List.mem_of_find?_eq_some h, answers_iff.1 hanswers⟩

/-- An addition succeeds exactly if the name is not taken, and else changes nothing. -/
theorem add_eq_ite (catalog : Catalog) (table : Table) :
    catalog.add table =
      if table.toQualifiedName ∈ catalog.keys then
        (.error (.duplicateTable table.display), catalog)
      else (.ok (), { tables := catalog.tables ++ [table] }) := by
  unfold add
  exact if_congr (catalog.contains_iff_mem_keys table.name table.schema) rfl rfl

/-- A table that is offered goes to the end if its name is not taken. -/
theorem offer_eq_ite (catalog : Catalog) (table : Table) :
    catalog.offer table =
      if table.toQualifiedName ∈ catalog.keys then catalog
      else { tables := catalog.tables ++ [table] } := by
  rw [offer, add_eq_ite, apply_ite Prod.snd]

/-- The keys stay distinct with a key that is not among them at the end. -/
theorem keys_append_nodup (table : Table) (hkeys : catalog.keys.Nodup)
    (hfree : table.toQualifiedName ∉ catalog.keys) :
    (keys { tables := catalog.tables ++ [table] }).Nodup := by
  rw [keys, List.map_append, List.map_singleton]
  exact List.nodup_append_comm.1 (List.nodup_cons.2 ⟨hfree, hkeys⟩)

/-- One offer keeps the keys distinct. -/
theorem keys_offer_nodup (table : Table) (hkeys : catalog.keys.Nodup) :
    (catalog.offer table).keys.Nodup := by
  rw [offer_eq_ite]
  by_cases htaken : table.toQualifiedName ∈ catalog.keys
  · rw [if_pos htaken]
    exact hkeys
  · rw [if_neg htaken]
    exact keys_append_nodup table hkeys htaken

/-- A run of offers keeps the keys distinct. -/
theorem keys_offerAll_nodup (tables : List Table) (hkeys : catalog.keys.Nodup) :
    (catalog.offerAll tables).keys.Nodup := by
  induction tables generalizing catalog with
  | nil => exact hkeys
  | cons table rest ih => exact ih (keys_offer_nodup table hkeys)

/-- All additions of a run succeed exactly if the keys are distinct in the end, and then the tables
stand behind those that were there. -/
theorem addAll_eq_ok_iff (tables : List Table) (hkeys : catalog.keys.Nodup) (final : Catalog) :
    catalog.addAll tables = .ok final ↔
      ((catalog.tables ++ tables).map Table.toQualifiedName).Nodup ∧
        final = { tables := catalog.tables ++ tables } := by
  induction tables generalizing catalog with
  | nil =>
    rw [List.append_nil]
    constructor
    · intro h
      exact ⟨hkeys, (Except.ok.inj h).symm⟩
    · rintro ⟨-, rfl⟩
      rfl
  | cons table rest ih =>
    have hsplit : catalog.tables ++ table :: rest = (catalog.tables ++ [table]) ++ rest := by
      rw [List.append_assoc, List.singleton_append]
    rw [addAll, add_eq_ite]
    by_cases htaken : table.toQualifiedName ∈ catalog.keys
    · rw [if_pos htaken]
      constructor
      · intro h
        cases h
      · rintro ⟨hnodup, -⟩
        rw [List.map_append, List.map_cons] at hnodup
        exact absurd rfl ((List.nodup_append.1 hnodup).2.2 _ htaken _ List.mem_cons_self)
    · rw [if_neg htaken, hsplit]
      exact ih (keys_append_nodup table hkeys htaken)

/-- A run of additions that succeed is a run of offers. -/
theorem offerAll_of_addAll {tables : List Table} {final : Catalog}
    (h : catalog.addAll tables = .ok final) : catalog.offerAll tables = final := by
  induction tables generalizing catalog with
  | nil => exact Except.ok.inj h
  | cons table rest ih =>
    rw [addAll] at h
    rw [offerAll, List.foldl_cons, offer]
    cases hadd : catalog.add table with
    | mk outcome extended =>
      rw [hadd] at h
      cases outcome with
      | error error => cases h
      | ok accepted => exact ih h

/-- Where keys are distinct, a stored table is found under its own name and schema. -/
theorem find?_of_mem (hkeys : catalog.keys.Nodup) {table : Table}
    (hmem : table ∈ catalog.tables) : catalog.find? table.name table.schema = some table := by
  have htaken : catalog.contains table.name table.schema = true :=
    (catalog.contains_iff_mem_keys _ _).2 (List.mem_map_of_mem hmem)
  obtain ⟨first, hfirst⟩ := Option.isSome_iff_exists.1 htaken
  obtain ⟨hstored, hkey⟩ := mem_of_find?_eq_some hfirst
  rw [hfirst, List.inj_on_of_nodup_map hkeys hstored hmem hkey]

/-- The names of a schema, within it, are the keys of the tables that are stored under it. -/
theorem map_names (catalog : Catalog) (schema : Option String) :
    (catalog.names schema).map (QualifiedName.mk · schema) =
      (catalog.tables.filter (·.schema == schema)).map Table.toQualifiedName := by
  rw [names, List.map_map]
  refine List.map_congr_left fun table hmem => ?_
  have hschema : table.schema = schema := beq_iff_eq.1 (List.mem_filter.1 hmem).2
  rw [Function.comp_apply, ← hschema]

/-- A schema lists a name exactly if it is among the keys. -/
theorem mem_names_iff_mem_keys (catalog : Catalog) (name : String) (schema : Option String) :
    name ∈ catalog.names schema ↔ { name, schema } ∈ catalog.keys := by
  rw [names, keys, List.mem_map, List.mem_map]
  constructor
  · rintro ⟨table, hmem, rfl⟩
    obtain ⟨hstored, hschema⟩ := List.mem_filter.1 hmem
    exact ⟨table, hstored, (QualifiedName.mk.injEq _ _ _ _).to_iff.2 ⟨rfl, beq_iff_eq.1 hschema⟩⟩
  · rintro ⟨table, hstored, hkey⟩
    obtain ⟨hname, hschema⟩ := (QualifiedName.mk.injEq _ _ _ _).to_iff.1 hkey
    exact ⟨table, List.mem_filter.2 ⟨hstored, beq_iff_eq.2 hschema⟩, hname⟩

/-- Where keys are distinct, a schema lists no name twice. -/
theorem names_nodup_of_nodup (hkeys : catalog.keys.Nodup) (schema : Option String) :
    (catalog.names schema).Nodup := by
  have hsub : ((catalog.names schema).map (QualifiedName.mk · schema)).Sublist catalog.keys := by
    rw [map_names]
    exact List.filter_sublist.map _
  exact (hkeys.sublist hsub).of_map _

/-- Where keys are distinct, looking the names of a schema up gives back its tables. -/
theorem tablesIn_eq_filter (hkeys : catalog.keys.Nodup) (schema : Option String) :
    catalog.tablesIn schema = catalog.tables.filter (·.schema == schema) := by
  have hlookup : ∀ table ∈ catalog.tables.filter (·.schema == schema),
      catalog.find? table.name schema = some table := by
    intro table hmem
    obtain ⟨hstored, hschema⟩ := List.mem_filter.1 hmem
    rw [← beq_iff_eq.1 hschema]
    exact find?_of_mem hkeys hstored
  calc catalog.tablesIn schema
      = (catalog.tables.filter (·.schema == schema)).filterMap
          fun table => catalog.find? table.name schema := List.filterMap_map
    _ = (catalog.tables.filter (·.schema == schema)).filterMap some :=
        List.filterMap_congr hlookup
    _ = catalog.tables.filter (·.schema == schema) := List.filterMap_some

/-- A catalog whose keys are distinct is coherent. -/
theorem coherent_of_nodup (hkeys : catalog.keys.Nodup) : catalog.Coherent where
  keys_nodup := hkeys
  add_eq := catalog.add_eq_ite
  offerAll_eq := by
    intro table next
    rw [offerAll, List.foldl_cons, offer_eq_ite]
    by_cases htaken : table.toQualifiedName ∈ catalog.keys
    · rw [if_pos htaken, if_pos htaken, offerAll]
    · rw [if_neg htaken, if_neg htaken, offerAll]
  find?_eq_some_iff := by
    intro name schema table
    constructor
    · intro hfound
      obtain ⟨hmem, hkey⟩ := mem_of_find?_eq_some hfound
      exact ⟨hmem, (QualifiedName.mk.injEq _ _ _ _).to_iff.1 hkey⟩
    · rintro ⟨hmem, rfl, rfl⟩
      exact find?_of_mem hkeys hmem
  contains_iff := fun name schema =>
    (catalog.contains_iff_mem_keys name schema).trans
      (catalog.mem_names_iff_mem_keys name schema).symm
  names_nodup := names_nodup_of_nodup hkeys
  tablesIn_eq := tablesIn_eq_filter hkeys

/-- The tables of a document, read but not yet added to any catalog. -/
def definitions? (text : String) : Option (List Table) :=
  (Yaml.Node.parse? text).bind tablesOfNode?

/-- A document that is read holds the catalog in which its tables are added to an empty one. -/
theorem ofYaml_eq_addAll {text : String} {definitions : List Table}
    (h : definitions? text = some definitions) :
    ofYaml text = ({} : Catalog).addAll definitions := by
  rw [definitions?] at h
  rw [ofYaml, h]

/-- The tables of a list are all added to an empty catalog exactly if their keys are distinct, and
then the catalog has them in their order. -/
theorem addAll_empty_eq_ok_iff (definitions : List Table) (loaded : Catalog) :
    ({} : Catalog).addAll definitions = .ok loaded ↔
      (definitions.map Table.toQualifiedName).Nodup ∧ loaded = { tables := definitions } := by
  have hempty : ({} : Catalog).keys.Nodup := List.nodup_nil
  exact addAll_eq_ok_iff definitions hempty loaded

/-- A catalog to which all tables of a list were added has distinct keys. -/
theorem keys_nodup_of_addAll {definitions : List Table}
    (h : ({} : Catalog).addAll definitions = .ok catalog) : catalog.keys.Nodup := by
  obtain ⟨hnodup, rfl⟩ := (addAll_empty_eq_ok_iff definitions catalog).1 h
  exact hnodup

/-- A document that is loaded has been read. -/
theorem exists_of_ofYaml {text : String} (h : ofYaml text = .ok catalog) :
    ∃ definitions, definitions? text = some definitions ∧
      ({} : Catalog).addAll definitions = .ok catalog := by
  cases hread : definitions? text with
  | none =>
    rw [definitions?] at hread
    rw [ofYaml, hread] at h
    cases h
  | some definitions =>
    rw [ofYaml_eq_addAll hread] at h
    exact ⟨definitions, rfl, h⟩

/-- Whatever is offered to an empty catalog or to one that is loaded, from a list of definitions or
from a document that lists them, the catalog stays coherent. A list is loaded exactly if no two of
its tables share name and schema, and gives the catalog to which its tables are added in order. -/
theorem run_coherent {start : Catalog}
    (hstart : start = {} ∨ (∃ definitions, ({} : Catalog).addAll definitions = .ok start) ∨
      ∃ text, ofYaml text = .ok start) (offered : List Table) :
    (start.offerAll offered).Coherent ∧
      (∀ definitions : List Table,
        ((∃ loaded, ({} : Catalog).addAll definitions = .ok loaded) ↔
            (definitions.map Table.toQualifiedName).Nodup) ∧
          ∀ loaded, ({} : Catalog).addAll definitions = .ok loaded →
            loaded = ({} : Catalog).offerAll definitions ∧ loaded.tables = definitions) ∧
      ∀ (text : String) (definitions : List Table), definitions? text = some definitions →
        ofYaml text = ({} : Catalog).addAll definitions := by
  have hkeys : start.keys.Nodup := by
    obtain rfl | ⟨definitions, hadded⟩ | ⟨text, hload⟩ := hstart
    · exact List.nodup_nil
    · exact keys_nodup_of_addAll hadded
    · obtain ⟨definitions, -, hadded⟩ := exists_of_ofYaml hload
      exact keys_nodup_of_addAll hadded
  refine ⟨coherent_of_nodup (keys_offerAll_nodup offered hkeys), fun definitions => ?_,
    fun text definitions => ofYaml_eq_addAll⟩
  have hloaded := addAll_empty_eq_ok_iff definitions
  refine ⟨⟨?_, ?_⟩, ?_⟩
  · rintro ⟨loaded, hadded⟩
    exact ((hloaded loaded).1 hadded).1
  · intro hnodup
    exact ⟨_, (hloaded _).2 ⟨hnodup, rfl⟩⟩
  · intro loaded hadded
    refine ⟨(offerAll_of_addAll hadded).symm, ?_⟩
    rw [((hloaded loaded).1 hadded).2]

end Catalog

namespace Sample

/-- A document with tables of one name in two places. -/
def listing : String :=
  "tables:\n" ++
  "  - name: events\n" ++
  "    columns:\n" ++
  "      - name: id\n" ++
  "        data_type: INTEGER\n" ++
  "  - name: events\n" ++
  "    schema: crm\n"

/-- The catalog of the document. -/
def listed : Catalog :=
  (Catalog.ofYaml listing).toOption.getD {}

/-- The document is loaded. -/
theorem ofYaml_listing : Catalog.ofYaml listing = .ok listed := by
  have hloads : (Catalog.ofYaml listing).toOption.isSome = true := by decide +kernel
  cases hload : Catalog.ofYaml listing with
  | error fault =>
    rw [hload] at hloads
    cases hloads
  | ok catalog =>
    rw [listed, hload]
    rfl

/-- Two tables are offered to the catalog of the document, the first of them under a name that is
taken. -/
theorem run_coherent_listed :
    (listed.offerAll [events, contacts]).names none = ["events", "contacts"] ∧
      (listed.offerAll [events, contacts]).Coherent ∧
      ∃ definitions, Catalog.definitions? listing = some definitions ∧
        listed = ({} : Catalog).offerAll definitions ∧ listed.tables = definitions := by
  obtain ⟨definitions, hread, hadded⟩ := Catalog.exists_of_ofYaml ofYaml_listing
  have hstart : ∃ text, Catalog.ofYaml text = .ok listed := ⟨listing, ofYaml_listing⟩
  have hrun := Catalog.run_coherent (.inr (.inr hstart)) [events, contacts]
  exact ⟨by decide +kernel, hrun.1, definitions, hread, (hrun.2.1 definitions).2 listed hadded⟩

end Sample

end QueryAlgebra
