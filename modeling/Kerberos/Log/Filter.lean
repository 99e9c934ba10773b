import Kerberos.Log.Event
import Kerberos.Text.Alphanumeric
import Kerberos.Text.Blank
import Kerberos.Text.Integer
import Kerberos.Text.Parts

/-!
# Log filters

A filter is a list of directives, separated by commas. A directive names the start of the targets
it is for and the least important level that is let through, `target=level`; a level alone is for
all targets, a target alone lets everything through. A level is given by its name or by its rank
from 1 to 5, and the name `off` or the rank 0 lets nothing through. Of the directives for an event
the one with the longest target decides, and an event that none is for is dropped. A text without
any directive lets warnings and errors through.
-/

namespace Kerberos
namespace Log

/-- The least important level that is let through; `none` lets nothing through. -/
abbrev Threshold := Option Level

/-- A rule for the events whose target starts with `target`. -/
structure Directive where
  target : List Char
  threshold : Threshold

/-- The rules of a filter. -/
abbrev Filter := List Directive

namespace Threshold

def allows : Threshold → Level → Bool
  | none, _ => false
  | some least, level => level.rank ≤ least.rank

/-- The threshold with a rank; the rank below all levels lets nothing through. -/
def ofRank? (rank : Nat) : Option Threshold :=
  if rank = 0 then some none else (Level.all.find? fun l => l.rank = rank).map some

/-- The threshold with a name, in any case of its letters. -/
def ofName? (name : List Char) : Option Threshold :=
  let word := name.map Char.toLower
  if word = "off".toList then some none
  else (Level.all.find? fun l => word = l.label.toList.map Char.toLower).map some

/-- Reads a threshold: an integer literal is a rank, and any other text a name. -/
def parse? (text : List Char) : Option Threshold :=
  match Text.Integer.unsigned? text with
  | some rank => ofRank? rank
  | none => ofName? text

end Threshold

namespace Directive

/-- The rule of a filter without directives. -/
def default : Directive :=
  ⟨[], some .warn⟩

/-- Whether a character can be the first one of a directive. -/
def canStart (c : Char) : Bool :=
  Text.isAlphanumeric c || c = '-' || c = ':' || c = '_'

/-- Reads a directive without an equals sign: a level, or a target. -/
def parseBare (text : List Char) : Directive :=
  match Threshold.parse? text with
  | some threshold => ⟨[], threshold⟩
  | none => ⟨text, some .trace⟩

/-- Reads a directive. One with an equals sign must not start with a blank; nothing after the sign
lets everything through, as if the sign were not there. -/
def parse? (text : List Char) : Option Directive :=
  if !(text.dropWhile Text.isBlank).head?.any canStart then none
  else
    match text.dropWhile (· ≠ '=') with
    | [] => some (parseBare text)
    | _ :: level =>
      if text.head?.any Text.isBlank then none
      else
        let target := text.takeWhile (· ≠ '=')
        if level.isEmpty then some ⟨target, some .trace⟩
        else (Threshold.parse? level).map fun t => ⟨target, t⟩

def isFor (target : List Char) (d : Directive) : Bool :=
  d.target.isPrefixOf target

end Directive

namespace Filter

/-- Reads a filter. Parts that are no directives are left out. -/
def parse (text : String) : Filter :=
  let parts := (Text.parts ',' text.toList).filter fun part => !part.isEmpty
  match parts.filterMap Directive.parse? with
  | [] => [.default]
  | directives => directives

/-- Of the directive found so far and the next one, the one that decides. -/
def prefer : Option Directive → Directive → Option Directive
  | none, d => some d
  | some best, d => if d.target.length < best.target.length then some best else some d

/-- The directive that decides about a target: the last of those with the longest target. -/
def decisive? (f : Filter) (target : String) : Option Directive :=
  (f.filter (Directive.isFor target.toList)).foldl prefer none

def allows (f : Filter) (e : Event) : Bool :=
  match f.decisive? e.target with
  | none => false
  | some d => d.threshold.allows e.level

def lines (f : Filter) (events : List Event) : List String :=
  (events.filter f.allows).map Event.line

end Filter
end Log
end Kerberos
