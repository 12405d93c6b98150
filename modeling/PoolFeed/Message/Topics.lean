/-!
# Kinds, channels and subjects

Every update goes out twice: on the minimal channel, which names keys only, and on the full channel,
which carries whole pool objects. The subject of a message is the namespace, the chain and the
channel, separated by dots.

## Main statements

* `Topics.channelOf?_subject` — the channel is read back off a subject, whatever the chain is
-/

namespace PoolFeed

/-- What an update does to the pools a subscriber holds. -/
inductive Kind where
  /-- Replaces them. -/
  | full
  /-- Adds to them. -/
  | add
  /-- Takes some away. -/
  | remove
  deriving DecidableEq, Repr

namespace Kind

def all : List Kind := [.full, .add, .remove]

def name : Kind → String
  | .full => "full"
  | .add => "add"
  | .remove => "remove"

/-- The name of a kind in errors. -/
def title : Kind → String
  | .full => "Full"
  | .add => "Add"
  | .remove => "Remove"

def ofName? (name : String) : Option Kind := all.find? (fun k => k.name = name)

@[simp] theorem ofName?_name (k : Kind) : ofName? k.name = some k := by
  cases k <;> decide

end Kind

/-- Where an update is delivered. -/
inductive Channel where
  /-- Keys only. -/
  | minimal
  /-- Whole pool objects, where the update has them. -/
  | full
  deriving DecidableEq, Repr

namespace Channel

def all : List Channel := [.minimal, .full]

def name : Channel → String
  | .minimal => "minimal"
  | .full => "full"

def ofName? (name : String) : Option Channel := all.find? (fun c => c.name = name)

@[simp] theorem ofName?_name (c : Channel) : ofName? c.name = some c := by
  cases c <;> decide

theorem dot_notMem_name (c : Channel) : '.' ∉ c.name.toList := by
  cases c <;> decide

end Channel

/-- The subjects under a namespace. -/
structure Topics where
  /-- The namespace in front of every subject. -/
  root : String
  deriving DecidableEq, Repr

namespace Topics

/-- The namespace that is used when none is given. -/
def defaultNamespace : String := "whitelist.pools"

/-- The subject of a chain's messages on a channel. -/
def subject (t : Topics) (chain : String) (channel : Channel) : String :=
  t.root ++ "." ++ chain ++ "." ++ channel.name

/-- The pattern that all subjects of a chain match. -/
def wildcard (t : Topics) (chain : String) : String :=
  t.root ++ "." ++ chain ++ ".>"

/-- What follows a prefix. -/
def dropPrefix? (front cs : List Char) : Option (List Char) :=
  if front.isPrefixOf cs then some (cs.drop front.length) else none

/-- What stands behind the last dot, if there is a dot. -/
def lastToken? (cs : List Char) : Option (List Char) :=
  if '.' ∈ cs then some (cs.reverse.takeWhile (· ≠ '.')).reverse else none

/-- The channel that a subject belongs to. -/
def channelOf? (t : Topics) (subject : String) : Option Channel := do
  let rest ← dropPrefix? (t.root.toList ++ ['.']) subject.toList
  let token ← lastToken? rest
  Channel.ofName? (String.ofList token)

/-- What stands behind a dot, if it holds none itself, is what stands behind the last dot. -/
theorem lastToken?_append {front token : List Char} (h : '.' ∉ token) :
    lastToken? (front ++ '.' :: token) = some token := by
  unfold lastToken?
  rw [if_pos (by simp)]
  congr 1
  have hall : ∀ c ∈ token.reverse, decide (c ≠ '.') = true := by
    intro c hc
    simp only [ne_eq, decide_eq_true_eq]
    rintro rfl
    exact h (List.mem_reverse.mp hc)
  rw [List.reverse_append, List.reverse_cons, List.append_assoc,
    List.takeWhile_append_of_pos hall]
  simp

/-- The channel is read back off a subject, whatever the chain is. -/
theorem channelOf?_subject (t : Topics) (chain : String) (channel : Channel) :
    t.channelOf? (t.subject chain channel) = some channel := by
  have hs : (t.subject chain channel).toList
      = (t.root.toList ++ ['.']) ++ (chain.toList ++ '.' :: channel.name.toList) := by
    simp [subject, String.toList_append]
  have hd : dropPrefix? (t.root.toList ++ ['.']) (t.subject chain channel).toList
      = some (chain.toList ++ '.' :: channel.name.toList) := by
    rw [hs, dropPrefix?, if_pos (List.isPrefixOf_iff_prefix.mpr (List.prefix_append _ _)),
      List.drop_left]
  simp [channelOf?, hd, lastToken?_append channel.dot_notMem_name]

end Topics

instance : Inhabited Topics := ⟨⟨Topics.defaultNamespace⟩⟩

end PoolFeed
