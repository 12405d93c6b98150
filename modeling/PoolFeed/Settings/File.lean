import PoolFeed.Files
import PoolFeed.Settings.Basic
import PoolFeed.Toml.Assignment

/-!
# Settings files

A file assigns settings by name. What it does not assign keeps its default; a name that is none of
them refuses the file.
-/

namespace PoolFeed.Settings

open Toml (Value)

def assign (s : Settings) (name : String) (value : Value) : Option Settings :=
  match name, value with
  | "database_url", .text t => some { s with databaseUrl := some t }
  | "nats_url", .text t => some { s with brokerUrl := t }
  | "namespace", .text t => some { s with namespaceText := t }
  | "publish_timeout_secs", .integer n =>
    if 0 ≤ n then some { s with publishSeconds := n.toNat } else none
  | "store_timeout_secs", .integer n =>
    if 0 ≤ n then some { s with storeSeconds := n.toNat } else none
  | _, _ => none

/-- The failure of a file that assigns no settings. -/
def unreadable : Failure := .foreign "Failed to parse whitelist-sync config"

def ofText (text : String) : Except Failure Settings :=
  match Toml.assignments? text with
  | none => .error unreadable
  | some assignments =>
    match assignments.foldlM (fun s a => assign s a.1 a.2) default with
    | none => .error unreadable
    | some s => .ok s

def load (files : Files) (path : String) : Except Failure Settings :=
  match files.text path with
  | .error f => .error ((Failure.ofMessage f.message).within s!"Failed to read config file {path}")
  | .ok text =>
    match ofText text with
    | .error f => .error (f.within s!"Invalid config file {path}")
    | .ok s => .ok s

/-- The settings of a file, if there is one, with others in their place, if they can be used. -/
def resolve (files : Files) (path : Option String) (o : Overrides) : Except Failure Settings :=
  let base := match path with
    | some p => load files p
    | none => .ok default
  match base with
  | .error f => .error f
  | .ok s =>
    match (s.override o).check with
    | .error e => .error e.failure
    | .ok () => .ok (s.override o)

end PoolFeed.Settings
