/- Module: Polykit/Registry/Mapping
   generality: I
   source: crates/polybase/src/registry/mod.rs
   digest: The field maps in both directions, and what is left after there and back again. -/

import Polykit.Lib.Renaming
import Polykit.Registry.Entity

set_option autoImplicit false
set_option relaxedAutoImplicit false

namespace Polykit.Registry.Mapping

open Entity Json Lib.Renaming

def unmapColumn (record : Map) (remote : Map) (column : ColumnDef) : Map :=
  match column.remoteName with
  | none => remote
  | some remoteName =>
      match record[column.localName]? with
      | some value => remote.insert remoteName value
      | none => remote

/-- The record under remote column names, without the fields of local columns. -/
def mapLocalToRemote (config : EntityConfig) (record : Map) : Map :=
  config.columns.foldl (unmapColumn record) ∅

def namePair (column : ColumnDef) : Option (String × String) :=
  column.remoteName.map (fun remoteName => (remoteName, column.localName))

def namePairs (config : EntityConfig) : List (String × String) := config.columns.filterMap namePair

def remoteNames (config : EntityConfig) : List String := (namePairs config).map Prod.fst

def syncedLocalNames (config : EntityConfig) : List String := (namePairs config).map Prod.snd

def restrict (names : List String) (record : Map) : Map :=
  record.filter (fun key _ => decide (key ∈ names))

/-! Both maps move the values of the synced columns. -/

theorem mapRemoteToLocal_eq_move (config : EntityConfig) (remote : Map) :
    config.mapRemoteToLocal remote = move (namePairs config) remote := by
  unfold EntityConfig.mapRemoteToLocal move namePairs
  rw [List.foldl_filterMap]
  congr 1
  funext mirror column
  unfold mapColumn namePair moveOne
  cases column.remoteName with
  | none => rfl
  | some remoteName => cases found : remote[remoteName]? <;> simp [found]

theorem mapLocalToRemote_eq_move (config : EntityConfig) (record : Map) :
    mapLocalToRemote config record = move ((namePairs config).map Prod.swap) record := by
  unfold mapLocalToRemote move namePairs
  rw [List.foldl_map, List.foldl_filterMap]
  congr 1
  funext remote column
  unfold unmapColumn namePair moveOne
  cases column.remoteName with
  | none => rfl
  | some remoteName => cases found : record[column.localName]? <;> simp [found]

/-- Under distinct remote names and distinct local names, going to the other side and back
leaves the fields of the synced columns, whichever names the two sides share. -/
theorem mapping_roundTrip {config : EntityConfig} (remotes : (remoteNames config).Nodup)
    (locals : (syncedLocalNames config).Nodup) :
    (∀ remote, mapLocalToRemote config (config.mapRemoteToLocal remote) =
      restrict (remoteNames config) remote) ∧
    ∀ record, config.mapRemoteToLocal (mapLocalToRemote config record) =
      restrict (syncedLocalNames config) record := by
  refine ⟨fun remote => ?_, fun record => ?_⟩
  · rw [mapLocalToRemote_eq_move, mapRemoteToLocal_eq_move]
    exact move_swap_move remotes locals
  · rw [mapRemoteToLocal_eq_move, mapLocalToRemote_eq_move]
    exact move_move_swap remotes locals

def crossed : EntityConfig :=
  { EntityConfig.synced "notes" "Note" with
    columns := [.synced "title" "body" "title" "TEXT" "string" false,
      .synced "body" "title" "body" "TEXT" "string" false, .localOnly "draft" "TEXT"] }

theorem mapping_roundTrip_crossed :
    let remote : Map := (∅ : Map).insert "title" (.string "T") |>.insert "extra" .null
    crossed.mapRemoteToLocal remote = (∅ : Map).insert "body" (.string "T") ∧
      mapLocalToRemote crossed (crossed.mapRemoteToLocal remote) =
        restrict (remoteNames crossed) remote :=
  ⟨rfl, (mapping_roundTrip (by decide) (by decide)).1 _⟩

end Polykit.Registry.Mapping
