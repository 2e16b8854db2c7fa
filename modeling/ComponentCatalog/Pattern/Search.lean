import ComponentCatalog.Pattern.Program

/-!
# Searching with a pattern

An automaton goes over a text once, with all its threads side by side in the order of preference.
At each place a state is entered by the most preferred thread that reaches it. The match that counts
is the one that starts first, and of those the most preferred one.
-/

namespace ComponentCatalog.Pattern

open Unicode

/-- A place in a text, known by its neighbours. -/
structure Site where
  index : Nat
  before? : Option Char
  after? : Option Char

/-- Is the character part of a word? -/
def isWordIn (ascii : Bool) (c : Char) : Bool := if ascii then CharSet.asciiWord.holds c.toNat else isWord c

/-- Does a place have what is asked of it? -/
def Look.holds (look : Look) (site : Site) : Bool :=
  let wordBefore (ascii : Bool) := site.before?.any (isWordIn ascii)
  let wordAfter (ascii : Bool) := site.after?.any (isWordIn ascii)
  match look with
  | textStart => site.before?.isNone
  | textEnd => site.after?.isNone
  | lineStart => site.before?.all (· == '\n')
  | lineEnd => site.after?.all (· == '\n')
  | anyLineStart =>
    site.before?.all fun c => c == '\n' || (c == '\r' && site.after? != some '\n')
  | anyLineEnd =>
    site.after?.all fun c => c == '\r' || (c == '\n' && site.before? != some '\r')
  | wordEdge ascii => wordBefore ascii != wordAfter ascii
  | noWordEdge ascii => wordBefore ascii == wordAfter ascii
  | wordStart ascii => !wordBefore ascii && wordAfter ascii
  | wordEnd ascii => wordBefore ascii && !wordAfter ascii
  | wordStartHalf ascii => !wordBefore ascii
  | wordEndHalf ascii => !wordAfter ascii

/-- The places that a thread marked. -/
abbrev Marks := Array (Option Nat)

/-- A thread stands in front of an instruction. -/
structure Thread where
  place : Nat
  marks : Marks

/-- The states entered at a place, and the threads that wait there for a character. -/
structure Front where
  /-- For each state the last place where it was entered, counted from one. -/
  entered : Array Nat
  threads : Array Thread := #[]

namespace Front

/-- Follows the instructions that take no character, the most preferred thread first. -/
def follow (code : Array Instr) (site : Site) : Nat → List Thread → Front → Front
  | 0, _, front => front
  | _, [], front => front
  | fuel + 1, thread :: others, front =>
    -- A thread that is preferred was here before.
    if front.entered.getD thread.place 0 == site.index + 1 then follow code site fuel others front
    else
      let front := { front with entered := front.entered.set! thread.place (site.index + 1) }
      match code[thread.place]? with
      | none => follow code site fuel others front
      | some (.take ..) | some .accept =>
        follow code site fuel others { front with threads := front.threads.push thread }
      | some (.check look next) =>
        if look.holds site then follow code site fuel (⟨next, thread.marks⟩ :: others) front
        else follow code site fuel others front
      | some (.mark slot next) =>
        follow code site fuel (⟨next, thread.marks.set! slot (some site.index)⟩ :: others) front
      | some (.fork first second) =>
        follow code site fuel (⟨first, thread.marks⟩ :: ⟨second, thread.marks⟩ :: others) front

/-- Lets one more thread enter. Each state is entered once at a place, so twice the number of states
bounds the steps. -/
def enter (code : Array Instr) (site : Site) (thread : Thread) (front : Front) : Front :=
  follow code site (2 * code.size + 2) [thread] front

end Front

/-- What the threads of a place lead to: the front of the next place, and the marks of a match that
ends here. Threads behind a match are given up. -/
def advanceThreads (code : Array Instr) (site : Site) (after : Site) :
    List Thread → Front → Front × Option Marks
  | [], next => (next, none)
  | thread :: others, next =>
    match code[thread.place]? with
    | some .accept => (next, some thread.marks)
    | some (.take set target) =>
      match site.after? with
      | some c =>
        if set.holds c.toNat then
          advanceThreads code site after others (next.enter code after ⟨target, thread.marks⟩)
        else advanceThreads code site after others next
      | none => advanceThreads code site after others next
    | _ => advanceThreads code site after others next

def Site.next (site : Site) (tail : List Char) : Site :=
  ⟨site.index + 1, site.after?, tail.head?⟩

/-- Goes on over a text. `found?` is the best match so far; once there is one, no new thread starts. -/
def Program.scan (program : Program) : List Char → Site → Front → Option Marks → Option Marks
  | text, site, front, found? =>
    let front :=
      if found?.isSome then front
      else front.enter program.code site
        ⟨program.start, Array.replicate (2 * program.groups + 2) none⟩
    let after := site.next text.tail
    let (next, ended?) :=
      advanceThreads program.code site after front.threads.toList { entered := front.entered }
    let found? := ended?.or found?
    match text with
    | [] => found?
    | _ :: tail =>
      if found?.isSome && next.threads.isEmpty then found?
      else program.scan tail after next found?

/-- The first match at a place or behind it. The text from the place on is given with the character
before it. -/
def Program.matchFrom? (program : Program) (index : Nat) (before? : Option Char) (text : List Char) :
    Option Marks :=
  program.scan text ⟨index, before?, text.head?⟩ { entered := Array.replicate program.code.size 0 } none

def Program.matches (program : Program) (text : String) : Bool :=
  (program.matchFrom? 0 none text.toList).isSome

end ComponentCatalog.Pattern
