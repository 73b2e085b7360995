import Triplify.Mapping.SplitSettings
import Triplify.Split.Event
/-!
# Chunks

Cutting a document into smaller ones. Each chunk has what stands before the root, the root's start
tag, a run of whole elements with what stands around them, and the root's end tag. What follows the
root is not looked at.
-/

namespace Triplify.Split

open Mapping

/-- What of the content of the root goes into one chunk, the last event first. -/
structure Body where
  events : List Event := []
  elements : Nat := 0
deriving Repr, DecidableEq

namespace Body

/-- The text of a body. -/
def render (b : Body) : List Char := Event.renderAll b.events.reverse

/-- The number of bytes of a body. -/
def byteSize (b : Body) : Nat := (String.ofList b.render).utf8ByteSize

/-- The body has as much as a chunk should have. -/
def isFull (s : SplitSettings) (b : Body) : Bool :=
  match s.kind with
  | .elementCount => decide (s.size ≤ b.elements)
  | .fileSize => decide (s.size * 1000 ≤ b.byteSize)

end Body

/-- The number of open elements after an event. -/
def Event.depthAfter (depth : Nat) : Event → Nat
  | start _ => depth + 1
  | close _ => depth - 1
  | _ => depth

/-- The event completes an element that stands right inside of the root. -/
def Event.completes (depth : Nat) : Event → Bool
  | close _ => depth == 1
  | empty _ => depth == 0
  | _ => false

/-- The event ends the root. -/
def Event.endsRoot (depth : Nat) : Event → Bool
  | close _ => depth == 0
  | _ => false

/-- The bodies of the chunks, and how many chunks there are if the root comes to its end; the third
argument counts those so far. A body is cut off after an element, as soon as it is full; what is left
at the end makes a body if it has an element. -/
def bodies (s : SplitSettings) (depth : Nat) (b : Body) (count : Nat) :
    List Event → List Body × Option Nat
  | [] => ([], none)
  | e :: rest =>
    if e.endsRoot depth then
      if b.elements > 0 then ([b], some (count + 1)) else ([], some count)
    else
      let grown : Body := ⟨e :: b.events, if e.completes depth then b.elements + 1 else b.elements⟩
      if e.completes depth && grown.isFull s then
        let (more, total) := bodies s (e.depthAfter depth) {} (count + 1) rest
        (grown :: more, total)
      else bodies s (e.depthAfter depth) grown count rest

/-- How a document begins. -/
inductive Opening
  | content (header : List Event) (root : List Char) (rest : List Event)
  | emptyRoot
  | noRoot
deriving Repr, DecidableEq

/-- Finds the root of a document. The header ends with its start tag. -/
def Opening.ofEvents (header : List Event) : List Event → Opening
  | [] => noRoot
  | .start tag :: rest => content (header ++ [.start tag]) (tagName tag) rest
  | .empty _ :: _ => emptyRoot
  | e :: rest => ofEvents (header ++ [e]) rest

/-- The chunks of a document, and how many they are, or what is wrong with it. -/
structure Chunks where
  texts : List String
  count : Except SplitFault Nat
deriving Repr

/-- What is wrong with the document, if something is. -/
def Chunks.fault (c : Chunks) : Option SplitFault :=
  match c.count with
  | .ok _ => none
  | .error f => some f

/-- The fault of a document that ends too early. -/
def Ending.fault (ending : Ending) (missing : SplitFault) : SplitFault :=
  match ending with
  | .complete => missing
  | .malformed => .malformed

/-- Cuts a document into chunks. Those before a fault count. -/
def Chunks.ofText (s : SplitSettings) (text : String) : Chunks :=
  let r := Reading.ofText text.toList
  match Opening.ofEvents [] r.events with
  | .noRoot => ⟨[], .error (r.ending.fault .noRoot)⟩
  | .emptyRoot => ⟨[], .ok 0⟩
  | .content header root rest =>
    let (found, total) := bodies s 0 {} 0 rest
    let texts := found.map fun b =>
      String.ofList (Event.renderAll header ++ b.render ++ (Event.close root).render)
    match total with
    | some n => ⟨texts, .ok n⟩
    | none => ⟨texts, .error (r.ending.fault .unclosedRoot)⟩

end Triplify.Split
