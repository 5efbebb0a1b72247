import JuryCaptions.Transcript.Cue
import JuryCaptions.Markup.Token
/-!
Cue text: tags and character references. Opening tags are read by
`</*\s*N(\.C)*\s*A\s*/*>`, others dropped; a closing tag pops the last one, and
the first `v` tag names the voice. Only `&amp;` and `&lt;` are decoded.
-/

namespace JuryCaptions
namespace Transcript

open Markup (isSpace)

/-! ### Tags -/

/-- The annotation part of the tag pattern and what follows it, from `cs` on:
the annotation as matched, or `none` when nothing from here on completes the
tag. It ends before the first slash when slashes and `>` end the tag there,
and otherwise at the last `>` before the first slash. -/
def annotationFrom (cs : List Char) : Option (List Char) :=
  let body := cs.takeWhile (· ≠ '/')
  let after := cs.drop body.length
  let slashes := after.takeWhile (· = '/')
  if !slashes.isEmpty && (after.drop slashes.length).head? == some '>' then some body
  else
    let lastClose := body.length - 1 - (body.reverse.takeWhile (· ≠ '>')).length
    if body.contains '>' then some (body.take lastClose) else none

/-- The class runs from `cs` on, `last` being the run read last, followed by
the annotation: the last run and the annotation of the first way that
matches. `fuel` bounds the depth of the search. -/
def classesFrom : Nat → List Char → List Char → Option (List Char × List Char)
  | 0, _, _ => none
  | f + 1, cs, last =>
    let more := match cs with
      | '.' :: rest =>
        let run := (rest.takeWhile fun c => !(isSpace c || c = '/')).length
        (List.range (run + 1)).reverse.findSome? fun k =>
          classesFrom f (rest.drop k) ('.' :: rest.take k)
      | _ => none
    match more with
    | some r => some r
    | none => (annotationFrom cs).map (last, ·)

/-- The name, last class run and annotation of a tag pattern matched at the
front of `cs`, which starts after the `<`. -/
def partsAfterOpen (cs : List Char) : Option (List Char × List Char × List Char) :=
  let slashes := (cs.takeWhile (· = '/')).length
  (List.range (slashes + 1)).reverse.findSome? fun k =>
    let named := (cs.drop k).dropWhile isSpace
    let run := (named.takeWhile fun c => !(c = '.' || isSpace c)).length
    (List.range run).reverse.findSome? fun j =>
      (classesFrom (named.length + 1) (named.drop (j + 1)) []).map fun (cls, note) =>
        (named.take (j + 1), cls, note)

/-- The parts of the first match of the tag pattern in `cs`. -/
def tagParts : List Char → Option (List Char × List Char × List Char)
  | [] => none
  | c :: rest =>
    match (if c = '<' then partsAfterOpen rest else none) with
    | some r => some r
    | none => tagParts rest

def tagOf (raw : String) : Option Tag :=
  (tagParts raw.toList).map fun (name, cls, note) =>
    let classes := if cls.isEmpty then []
      else (String.ofList ((cls.dropWhile (· = '.')).reverse.dropWhile (· = '.')).reverse).splitOn "."
    { name := String.ofList name, classes, annotation := Blank.trim (String.ofList note) }

/-! ### Text -/

def unescape : List Char → List Char
  | '&' :: 'a' :: 'm' :: 'p' :: ';' :: rest => '&' :: unescape rest
  | '&' :: 'l' :: 't' :: ';' :: rest => '<' :: unescape rest
  | c :: rest => c :: unescape rest
  | [] => []

def escape (s : String) : String :=
  String.join (s.toList.map fun c => if c = '&' then "&amp;" else if c = '<' then "&lt;" else c.toString)

def parseCueLine (line : String) : CueLine :=
  let step (st : CueLine × List Tag) (t : Markup.Token) : CueLine × List Tag :=
    let (l, stack) := st
    match t with
    | .closing => (l, stack.dropLast)
    | .opening raw =>
      match tagOf raw with
      | none => (l, stack)
      | some tag =>
        if tag.name == "v" then ({ l with voice := if l.voice.isEmpty then tag.annotation else l.voice }, stack)
        else (l, stack ++ [tag])
    | .text raw =>
      let s := Blank.trim raw
      if s.isEmpty then (l, stack)
      else ({ l with fragments := l.fragments ++ [{ text := String.ofList (unescape s.toList), tags := stack }] }, stack)
    | _ => (l, stack)
  ((Markup.tokens line).foldl step ({}, [])).1

end Transcript
end JuryCaptions
