import RichMarkdown.Markup.Event
import RichMarkdown.Text.Space
import RichMarkdown.Text.Punctuation

/-! Delimiters of emphasis and deletion. Each one is a piece of text at first; those that find a
partner become the ends of an element. -/
namespace RichMarkdown.Markdown

open Markup (Event)

structure Delimiter where
  marker : Char
  /-- The length of the run that it is part of, or 0 if lengths do not matter. -/
  size : Nat
  event : Nat
  opens : Bool
  closes : Bool
  partner : Option Nat := none
  deriving Inhabited

/-- Whether a run between two characters can open an element, and whether it can close one. Within
a word only some markers can. -/
def flanking (before after : Char) (inWord : Bool) : Bool × Bool :=
  let facesLeft := !Text.isFlankingSpace after &&
    (!Text.isPunctuation after || Text.isFlankingSpace before || Text.isPunctuation before)
  let facesRight := !Text.isFlankingSpace before &&
    (!Text.isPunctuation before || Text.isFlankingSpace after || Text.isPunctuation after)
  (facesLeft && (inWord || !facesRight || Text.isPunctuation before),
    facesRight && (inWord || !facesLeft || Text.isPunctuation after))

namespace Delimiter

/-- Where one of two runs can both open and close, their lengths must not add up to a multiple of
three, unless both are one. -/
def mismatched (opener closer : Delimiter) : Bool :=
  (opener.closes || closer.opens) && (opener.size + closer.size) % 3 = 0 &&
    (opener.size % 3 ≠ 0 || closer.size % 3 ≠ 0)

structure Pairing where
  delimiters : Array Delimiter
  /-- For each delimiter so far, how many before it a search skips along with it. -/
  jumps : Array Nat := #[]
  head : Nat := 0
  /-- The event of the delimiter before, unless the run was ended by a match. -/
  last : Option Nat := none
  /-- For each kind of closing delimiter that has failed, how many delimiters at the start are
  known to hold no opener for it. -/
  floors : List ((Char × Nat) × Nat) := []

def opener? (p : Pairing) (closer : Delimiter) (floor : Nat) : (bound top : Nat) → Option Nat
  | 0, _ => none
  | bound + 1, top =>
    if top ≤ floor then none
    else
      let n := top - 1
      let d := p.delimiters.getD n default
      if d.marker = closer.marker && d.opens && d.partner.isNone && !mismatched d closer then some n
      else opener? p closer floor bound (n - p.jumps.getD n 0)

def Pairing.step (p : Pairing) (n : Nat) : Pairing :=
  let d := p.delimiters.getD n default
  let inRun := (p.delimiters.getD p.head default).marker = d.marker &&
    p.last.any (· + 1 = d.event)
  let head := if inRun then p.head else n
  let p := { p with jumps := p.jumps.push 0, head, last := some d.event }
  if !d.closes then p
  else
    let kind := (d.marker, (if d.opens then 3 else 0) + d.size % 3)
    let top := head - p.jumps.getD head 0
    match opener? p d ((p.floors.lookup kind).getD 0) top top with
    | some m =>
      let skipped :=
        if 0 < m && !(p.delimiters.getD (m - 1) default).opens then p.jumps.getD (m - 1) 0 + 1
        else 0
      { p with
        delimiters := (p.delimiters.modify n fun d => { d with opens := false }).modify m
          fun d => { d with closes := false, partner := some n }
        jumps := (p.jumps.setIfInBounds n (n - m + skipped)).setIfInBounds m skipped
        last := none }
    | none => if top = 0 then p else { p with floors := (kind, top) :: p.floors }

def pair (ds : Array Delimiter) : Array Delimiter :=
  ((List.range ds.size).foldl Pairing.step { delimiters := ds }).delimiters

end Delimiter

def setElement (type : String) (first last : Nat) (events : Array Event) : Array Event :=
  (events.setIfInBounds first (.opening { type, tag := type })).setIfInBounds last (.closing type)

def isLoneTilde : Event → Bool
  | .leaf node => node.type = "text" && node.content = "~"
  | _ => false

def isDeletionEnd : Event → Bool
  | .closing type => type = "s"
  | _ => false

def moveBehind (n : Nat) (events : Array Event) : Array Event :=
  let ends := (events.toList.drop (n + 1)).takeWhile isDeletionEnd
  events.swapIfInBounds n (n + ends.length)

def placeDeletions (ds : Array Delimiter) (events : Array Event) : Array Event :=
  let pairs := ds.toList.filterMap fun d =>
    if d.marker = '~' then d.partner.map fun m => (d.event, (ds.getD m default).event) else none
  let events := pairs.foldl (fun events (first, last) => setElement "s" first last events) events
  let lone := (pairs.map (·.2 - 1)).filter fun n => events[n]?.any isLoneTilde
  lone.foldr moveBehind events

/-- Emphasis in the place of pairs of asterisks or underscores. Where a pair stands right around
another one of its kind, the two are one strong emphasis. Works from the last delimiter back; the
flag says that the delimiter at hand is taken up by the one after it. -/
def placeEmphasis (ds : Array Delimiter) (events : Array Event) : Array Event :=
  ((List.range ds.size).foldr step (events, false)).1
where
  step (n : Nat) : Array Event × Bool → Array Event × Bool
    | (events, true) => (events, false)
    | (events, false) =>
      let d := ds.getD n default
      match d.partner with
      | none => (events, false)
      | some m =>
        if d.marker = '~' then (events, false)
        else
          let closer := ds.getD m default
          let outer := ds.getD (n - 1) default
          let outerCloser := ds.getD (m + 1) default
          let isStrong := 0 < n && outer.partner == some (m + 1) && outer.marker = d.marker &&
            outer.event + 1 = d.event && outerCloser.event = closer.event + 1
          if isStrong then
            let events := (events.setIfInBounds outer.event (.leaf { type := "text" }))
              |>.setIfInBounds outerCloser.event (.leaf { type := "text" })
            (setElement "strong" d.event closer.event events, true)
          else (setElement "em" d.event closer.event events, false)

def placeElements (ds : Array Delimiter) (events : Array Event) : Array Event :=
  let ds := Delimiter.pair ds
  placeEmphasis ds (placeDeletions ds events)

end RichMarkdown.Markdown
