import Outline.Dump.Writer
import Outline.Notice

/-!
# The indentation dump

The dump prints one line per node in pre-order: the indentation unit once per level of
depth, then the label of the node. A node that reached the general operation has no dump
operation of its own; its line says so, and its children are dumped as usual.

The depth counter, the sink and the notices form the state of a dumper. Each visit leaves
the counter as it found it, also when it fails.

- `Dumper.visitor` — the dump as a visitor
- `dumpWith`, `dumpLines`, `dumpToString`, `dumpToWriter` — the dump of one tree
-/

namespace Outline

/-- Appended to the line of a node that reached the general operation. -/
def fallbackSuffix : String := ": no specialized handler for this node kind"

/-- How a tree is dumped. -/
structure DumpOptions where
  /-- Repeated once per level of depth in front of each label. -/
  indentUnit : String := " "
  /-- The greatest depth a node may have, the root having depth zero; without a number,
      any depth will do. -/
  maxDepth : Option Nat := none
deriving DecidableEq

namespace DumpOptions

/-- The indentation of a node at a depth. -/
def indentation (options : DumpOptions) (depth : Nat) : String :=
  String.join (List.replicate depth options.indentUnit)

/-- The limit that a depth exceeds, if it exceeds one. -/
def exceeded? (options : DumpOptions) (depth : Nat) : Option Nat :=
  options.maxDepth.filter (· < depth)

end DumpOptions

/-- The state of a dump in progress. -/
structure Dumper (σ : Type) where
  /-- The state of the sink. -/
  sink : σ
  /-- The depth of the next node. -/
  depth : Nat := 0
  /-- What has been reported. -/
  notices : List Notice := []

namespace Dumper

variable {σ δ : Type}

/-- Dumps a node with a text appended to its line, then its children one level deeper. -/
def write (sink : LineSink σ) (options : DumpOptions) (suffix : String) :
    Operation (Dumper σ) DumpError δ :=
  fun node descend data dumper =>
    match options.exceeded? dumper.depth with
    -- nothing is written for a node that is too deep
    | some limit => (.error (.tooDeep dumper.depth limit), dumper)
    | none =>
      let line := options.indentation dumper.depth ++ node.label ++ suffix
      match sink.emit line dumper.sink with
      | (.error error, state) => (.error error, { dumper with sink := state })
      | (.ok (), state) =>
        let below := descend data { dumper with sink := state, depth := dumper.depth + 1 }
        -- the counter goes back before the result is looked at
        (below.1, { below.2 with depth := below.2.depth - 1 })

/-- Reports a node without a dump operation of its own and dumps it with the mark. -/
def writeFallback (sink : LineSink σ) (options : DumpOptions) :
    Operation (Dumper σ) DumpError δ :=
  fun node descend data dumper =>
    write sink options fallbackSuffix node descend data
      { dumper with notices := dumper.notices ++ [.unhandledKind node.item.name] }

/-- The dump as a visitor. The data is passed through untouched. -/
def visitor (sink : LineSink σ) (options : DumpOptions) : Visitor (Dumper σ) DumpError δ where
  node := writeFallback sink options
  start := write sink options ""
  add := write sink options ""
  multiply := write sink options ""
  identifier := write sink options ""
  integer := write sink options ""

end Dumper

/-! ## Dumping one tree -/

/-- Dumps a tree into a sink, threading data through the visit. The result comes with the
    state of the sink and the notices, whether the dump succeeded or not. -/
def dumpWith {σ δ : Type} (sink : LineSink σ) (options : DumpOptions) (root : Node)
    (data : δ) (state : σ) : Logged (Except DumpError δ × σ) :=
  let visited := (Dumper.visitor sink options).visit root data
    { sink := state, notices := [.dumpStarted root.label] }
  let finished := match visited.1 with
    | .ok _ => [Notice.dumpFinished root.label]
    | .error _ => []
  ⟨(visited.1, visited.2.sink), visited.2.notices ++ finished⟩

/-- The lines of a tree under the default options. -/
def dumpLines (root : Node) : Logged (List String) :=
  (dumpWith LineSink.list {} root () []).map (·.2)

/-- The dump of a tree as one text, each line ended by a line break. -/
def dumpToString (options : DumpOptions) (root : Node) : Logged (Except DumpError String) :=
  (dumpWith LineSink.text options root () "").map fun (result, text) =>
    result.map fun () => text

/-- Streams the dump into a writer and flushes it once when the dump is complete. -/
def dumpToWriter {σ : Type} (writer : Writer σ) (options : DumpOptions) (root : Node)
    (state : σ) : Logged (Except DumpError Unit × σ) :=
  (dumpWith writer.sink options root () state).map fun
    | (.error error, state) => (.error error, state)
    | (.ok (), state) =>
      match writer.flush state with
      | (.error cause, state) => (.error (.io cause), state)
      | (.ok (), state) => (.ok (), state)

end Outline
