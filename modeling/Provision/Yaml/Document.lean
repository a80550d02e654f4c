/-
  Provision.Yaml.Document
  ───────────────────────
  **THE FIRST DOCUMENT OF A TEXT.**

  A document is the list of its events, in which every alias carries the
  number of the anchor it refers to.  Reading goes on until the document
  ends; what is wrong later in it is kept as the fault that ends its events.
  A text without a document has one event that stands for nothing.

  Main results:

    `ofText`     the first document, with the fault that ends it early
-/
import Provision.Yaml.Event

namespace Provision.Yaml

/-! ## §1. Nodes as events. -/

/-- An event inside a document. -/
inductive NodeEvent where
  /-- There is no document. -/
  | void
  /-- The node with an anchor again. -/
  | alias (anchor : Nat)
  | scalar (tag : Option String) (text : String) (style : ScalarStyle)
  | sequenceStart
  | sequenceEnd
  | mappingStart
  | mappingEnd
  deriving DecidableEq, Repr, Inhabited

/-- A document. -/
structure Document where
  events : List (NodeEvent × Mark) := []
  /-- For every anchor the number of the event at which its node begins, the
  latest first. -/
  anchors : List (Nat × Nat) := []
  /-- The fault that ends the events. -/
  fault : Option Fault := none
  /-- Is there anything after the document? -/
  followed : Bool := false
  deriving Inhabited

namespace Document

/-! ## §2. Anchors. -/

/-- The events of a document so far, in reverse, and what they name. -/
structure Draft where
  events : List (NodeEvent × Mark) := []
  /-- The numbers of the names of anchors. -/
  names : List (String × Nat) := []
  anchors : List (Nat × Nat) := []
  deriving Inhabited

/-- Give an anchor its number; a name that is used again gets a new one. -/
def Draft.name (d : Draft) : Option String → Draft
  | none => d
  | some a =>
      let n := d.names.length
      { d with
        names := (a, n) :: d.names.filter (·.1 != a)
        anchors := (n, d.events.length) :: d.anchors }

/-- Add a node event. -/
def Draft.add (d : Draft) (e : NodeEvent) (m : Mark) : Draft :=
  { d with events := (e, m) :: d.events }

/-- The document of a draft. -/
def Draft.finish (d : Draft) (fault : Option Fault) (followed : Bool) : Document :=
  ⟨d.events.reverse, d.anchors, fault, followed⟩

/-- Enter the events of a document, up to an alias of an unknown anchor. -/
def enter : Draft → List (Event × Mark) → Except (Document × Fault) Draft
  | d, [] => .ok d
  | d, (e, m) :: es =>
      match e with
      | .alias name =>
          match d.names.lookup name with
          | some n => enter (d.add (.alias n) m) es
          | none => .error (d.finish none false, .unknownAnchor m)
      | .scalar p text style => enter ((d.name p.anchor).add (.scalar p.tag text style) m) es
      | .sequenceStart p => enter ((d.name p.anchor).add .sequenceStart m) es
      | .sequenceEnd => enter (d.add .sequenceEnd m) es
      | .mappingStart p => enter ((d.name p.anchor).add .mappingStart m) es
      | .mappingEnd => enter (d.add .mappingEnd m) es
      | .documentStart | .documentEnd => enter d es
      | .streamEnd => enter (if d.events.isEmpty then d.add .void m else d) es

/-! ## §3. The document of a text. -/

/-- Is there anything but the end of the text after a document? -/
def isFollowed (s : Teller) : Bool :=
  match s.step with
  | .ok ((.streamEnd, _), _) => false
  | _ => true

/-- The first document of a text. -/
def ofText (text : String) : Document :=
  let (ts, fault) := tokens text.toList
  let (es, r) := (Teller.ofTokens ts fault).tellAll (4 * ts.length + 16)
  match enter {} es, r with
  | .error (d, f), _ => { d with fault := some f, followed := true }
  | .ok d, .error f => d.finish (some f) true
  | .ok d, .ok s => d.finish none (es.getLast?.any (·.1 = .documentEnd) && isFollowed s)

end Document

end Provision.Yaml
