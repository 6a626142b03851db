/- Module: Polykit/Registry/Indexes
   generality: I
   source: crates/polybase/src/registry/mod.rs
   digest: What the registry's three indexes answer after any sequence of registrations. -/

import Polykit.Registry.Entity

set_option autoImplicit false
set_option relaxedAutoImplicit false

namespace Polykit.Registry.Indexes

open Entity Lib.Keyed

def configForType (registry : Registry) (entityTypeName : String) : Option EntityConfig :=
  registry.byType[entityTypeName]?

def isRegisteredType (registry : Registry) (entityTypeName : String) : Bool :=
  registry.byType.contains entityTypeName

/-- Registers a config. A call that panics has changed nothing. -/
def registerOrPanic (registry : Registry) (config : EntityConfig) : Registry :=
  (registry.register config).getD registry

def registerAll (configs : List EntityConfig) : Registry := configs.foldl registerOrPanic {}

def registers (config : EntityConfig) : Bool := !config.isSynced || config.entityTypeName.isSome

def syncedAs (entityTypeName : String) (config : EntityConfig) : Bool :=
  config.isSynced && config.entityTypeName == some entityTypeName

def isFor (table : String) (config : EntityConfig) : Bool :=
  registers config && config.tableName == table

def syncedFor (table : String) (config : EntityConfig) : Bool :=
  config.isSynced && isFor table config

/-! One registration. -/

section

variable (registry : Registry) (config : EntityConfig)

theorem configForTable_registerOrPanic (table : String) :
    (registerOrPanic registry config).configForTable table =
      if isFor table config then some config else registry.configForTable table := by
  unfold registerOrPanic Registry.register Registry.configForTable isFor registers
  cases synced : config.isSynced <;> cases named : config.entityTypeName <;>
    simp [Std.ExtTreeMap.getElem?_insert]

theorem configForType_registerOrPanic (entityTypeName : String) :
    configForType (registerOrPanic registry config) entityTypeName =
      if syncedAs entityTypeName config then some config
      else configForType registry entityTypeName := by
  unfold registerOrPanic Registry.register configForType syncedAs
  cases synced : config.isSynced <;> cases named : config.entityTypeName <;>
    simp [Std.ExtTreeMap.getElem?_insert]

theorem isRegisteredTable_registerOrPanic (table : String) :
    (registerOrPanic registry config).isRegisteredTable table =
      (syncedFor table config || registry.isRegisteredTable table) := by
  unfold registerOrPanic Registry.register Registry.isRegisteredTable syncedFor isFor registers
  rw [Bool.eq_iff_iff]
  cases synced : config.isSynced <;> cases named : config.entityTypeName <;>
    simp [Std.ExtTreeMap.contains_insert]

end

/-! A whole sequence of registrations, from its last one back. -/

section

variable (configs : List EntityConfig)

theorem registerAll_append (config : EntityConfig) :
    registerAll (configs ++ [config]) = registerOrPanic (registerAll configs) config := by
  unfold registerAll
  rw [List.foldl_append, List.foldl_cons, List.foldl_nil]

theorem configForTable_registerAll (table : String) :
    (registerAll configs).configForTable table = configs.reverse.find? (isFor table) := by
  induction configs using List.reverseRecOn with
  | nil => simp [registerAll, Registry.configForTable]
  | append_singleton configs config ih =>
    rw [registerAll_append, configForTable_registerOrPanic, find_reverse_append, ih]

theorem configForType_registerAll (entityTypeName : String) :
    configForType (registerAll configs) entityTypeName =
      configs.reverse.find? (syncedAs entityTypeName) := by
  induction configs using List.reverseRecOn with
  | nil => simp [registerAll, configForType]
  | append_singleton configs config ih =>
    rw [registerAll_append, configForType_registerOrPanic, find_reverse_append, ih]

theorem isRegisteredTable_registerAll (table : String) :
    (registerAll configs).isRegisteredTable table = configs.any (syncedFor table) := by
  induction configs using List.reverseRecOn with
  | nil => simp [registerAll, Registry.isRegisteredTable]
  | append_singleton configs config ih =>
    rw [registerAll_append, isRegisteredTable_registerOrPanic, ih, List.any_append, Bool.or_comm]
    simp

theorem isRegisteredType_registerAll (entityTypeName : String) :
    isRegisteredType (registerAll configs) entityTypeName =
      configs.any (syncedAs entityTypeName) := by
  have found : isRegisteredType (registerAll configs) entityTypeName =
      (configForType (registerAll configs) entityTypeName).isSome := by
    simp [isRegisteredType, configForType]
  rw [found, configForType_registerAll, List.isSome_find?, List.any_reverse]

end

/-! How the indexes relate. -/

section

variable {configs : List EntityConfig} {config : EntityConfig} {table entityTypeName : String}

theorem syncedAs_iff : syncedAs entityTypeName config = true ↔
    config.isSynced = true ∧ config.entityTypeName = some entityTypeName := by
  simp [syncedAs]

theorem registers_of_syncedAs (h : syncedAs entityTypeName config = true) :
    registers config = true := by
  obtain ⟨_, named⟩ := syncedAs_iff.mp h
  simp [registers, named]

theorem configForTable_of_type
    (found : configForType (registerAll configs) entityTypeName = some config) :
    ∃ current, (registerAll configs).configForTable config.tableName = some current ∧
      (current = config ∨ syncedAs entityTypeName current = false) := by
  rw [configForType_registerAll] at found
  have named : syncedAs entityTypeName config = true := List.find?_some found
  have own : isFor config.tableName config = true := by
    simp [isFor, registers_of_syncedAs named]
  obtain ⟨_, newer, older, split, others⟩ := List.find?_eq_some_iff_append.mp found
  rw [configForTable_registerAll, split, List.find?_append, List.find?_cons_of_pos own]
  cases later : newer.find? (isFor config.tableName) with
  | none => exact ⟨config, rfl, .inl rfl⟩
  | some current =>
    have other := others current (List.mem_of_find?_eq_some later)
    exact ⟨current, rfl, .inr (by simpa using other)⟩

theorem configForTable_of_mem (member : config ∈ configs) (fine : registers config = true) :
    ∃ current, (registerAll configs).configForTable config.tableName = some current := by
  rw [configForTable_registerAll]
  have registered : config ∈ configs.reverse := List.mem_reverse.mpr member
  refine Option.isSome_iff_exists.mp (List.find?_isSome.mpr ⟨config, registered, ?_⟩)
  simp [isFor, fine]

theorem mem_of_configForTable (h : (registerAll configs).configForTable table = some config) :
    config ∈ configs ∧ registers config = true ∧ config.tableName = table := by
  rw [configForTable_registerAll] at h
  have holds : isFor table config = true := List.find?_some h
  simp only [isFor, Bool.and_eq_true, beq_iff_eq] at holds
  exact ⟨List.mem_reverse.mp (List.mem_of_find?_eq_some h), holds⟩

theorem mem_of_configForType
    (h : configForType (registerAll configs) entityTypeName = some config) :
    config ∈ configs ∧ syncedAs entityTypeName config = true := by
  rw [configForType_registerAll] at h
  exact ⟨List.mem_reverse.mp (List.mem_of_find?_eq_some h), List.find?_some h⟩

theorem isRegisteredTable_iff : (registerAll configs).isRegisteredTable table = true ↔
    ∃ config ∈ configs, config.isSynced = true ∧ registers config = true ∧
      config.tableName = table := by
  simp [isRegisteredTable_registerAll, syncedFor, isFor]

theorem isRegisteredType_iff : isRegisteredType (registerAll configs) entityTypeName = true ↔
    ∃ config ∈ configs, syncedAs entityTypeName config = true := by
  simp [isRegisteredType_registerAll]

def Stable (configs : List EntityConfig) : Prop :=
  ∀ a ∈ configs, ∀ b ∈ configs, registers a = true → registers b = true →
    a.tableName = b.tableName → a.scope = b.scope ∧ a.entityTypeName = b.entityTypeName

/-- The indexes speak of the configs that the tables are left with. -/
structure Coherent (registry : Registry) : Prop where
  tables : ∀ table, registry.isRegisteredTable table = true ↔
    ∃ config, registry.configForTable table = some config ∧ config.isSynced = true
  types : ∀ entityTypeName, isRegisteredType registry entityTypeName = true ↔
    ∃ table config, registry.configForTable table = some config ∧
      syncedAs entityTypeName config = true
  agree : ∀ entityTypeName config, configForType registry entityTypeName = some config →
    registry.configForTable config.tableName = some config

theorem Stable.current (stable : Stable configs) {current : EntityConfig}
    (member : config ∈ configs) (fine : registers config = true)
    (left : (registerAll configs).configForTable config.tableName = some current) :
    current.isSynced = config.isSynced ∧ ∀ entityTypeName,
      syncedAs entityTypeName current = syncedAs entityTypeName config := by
  obtain ⟨inside, also, same⟩ := mem_of_configForTable left
  obtain ⟨scope, named⟩ := stable current inside config member also fine same
  simp [syncedAs, EntityConfig.isSynced, scope, named]

theorem Stable.coherent (stable : Stable configs) : Coherent (registerAll configs) where
  tables table := by
    rw [isRegisteredTable_iff]
    constructor
    · rintro ⟨config, member, synced, fine, rfl⟩
      obtain ⟨current, left⟩ := configForTable_of_mem member fine
      obtain ⟨same, _⟩ := stable.current member fine left
      exact ⟨current, left, same.trans synced⟩
    · rintro ⟨config, left, synced⟩
      obtain ⟨member, fine, here⟩ := mem_of_configForTable left
      exact ⟨config, member, synced, fine, here⟩
  types entityTypeName := by
    rw [isRegisteredType_iff]
    constructor
    · rintro ⟨config, member, named⟩
      have fine := registers_of_syncedAs named
      obtain ⟨current, left⟩ := configForTable_of_mem member fine
      obtain ⟨_, same⟩ := stable.current member fine left
      exact ⟨config.tableName, current, left, (same entityTypeName).trans named⟩
    · rintro ⟨table, config, left, named⟩
      exact ⟨config, (mem_of_configForTable left).1, named⟩
  agree entityTypeName config found := by
    obtain ⟨member, named⟩ := mem_of_configForType found
    obtain ⟨current, left, rfl | other⟩ := configForTable_of_type found
    · exact left
    · obtain ⟨_, same⟩ := stable.current member (registers_of_syncedAs named) left
      rw [same, named] at other
      cases other

end

/-- The indexes by table and by type remember every synced config that was registered. They speak
of the configs that the tables are left with, as long as these stay what they were. -/
theorem registerAll_indexes (configs : List EntityConfig) :
    (∀ table, (registerAll configs).isRegisteredTable table = true ↔
      ∃ config ∈ configs, config.isSynced = true ∧ registers config = true ∧
        config.tableName = table) ∧
    (∀ entityTypeName, isRegisteredType (registerAll configs) entityTypeName = true ↔
      ∃ config ∈ configs, syncedAs entityTypeName config = true) ∧
    (∀ table config, (registerAll configs).configForTable table = some config →
      (config.isSynced = true → (registerAll configs).isRegisteredTable table = true) ∧
      ∀ entityTypeName, syncedAs entityTypeName config = true →
        isRegisteredType (registerAll configs) entityTypeName = true) ∧
    (∀ entityTypeName config, configForType (registerAll configs) entityTypeName = some config →
      configs.reverse.find? (syncedAs entityTypeName) = some config ∧
      ∃ current, (registerAll configs).configForTable config.tableName = some current ∧
        (current = config ∨ syncedAs entityTypeName current = false)) ∧
    (Stable configs → Coherent (registerAll configs)) := by
  refine ⟨fun _ => isRegisteredTable_iff, fun _ => isRegisteredType_iff, ?_, ?_, Stable.coherent⟩
  · intro table config left
    obtain ⟨member, fine, here⟩ := mem_of_configForTable left
    exact ⟨fun synced => isRegisteredTable_iff.mpr ⟨config, member, synced, fine, here⟩,
      fun _ named => isRegisteredType_iff.mpr ⟨config, member, named⟩⟩
  · intro entityTypeName config found
    refine ⟨?_, configForTable_of_type found⟩
    rw [← configForType_registerAll]
    exact found

/-- A table that was synced once and local later. -/
theorem reregistered_incoherent :
    let registry := registerAll [.synced "notes" "Note", .localOnly "notes"]
    registry.isRegisteredTable "notes" = true ∧
      registry.configForTable "notes" = some (.localOnly "notes") ∧
      configForType registry "Note" = some (.synced "notes" "Note") ∧ ¬ Coherent registry := by
  intro registry
  have table : registry.isRegisteredTable "notes" = true := by
    rw [isRegisteredTable_registerAll]
    rfl
  have left : registry.configForTable "notes" = some (.localOnly "notes") := by
    rw [configForTable_registerAll]
    rfl
  have typed : configForType registry "Note" = some (.synced "notes" "Note") := by
    rw [configForType_registerAll]
    rfl
  refine ⟨table, left, typed, fun coherent => ?_⟩
  have agree : registry.configForTable "notes" = some (.synced "notes" "Note") :=
    coherent.agree "Note" _ typed
  rw [left] at agree
  cases agree

end Polykit.Registry.Indexes
