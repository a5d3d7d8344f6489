import Issuance.Event
import Issuance.Pattern.Reader

/-! # Which log records are shown

    A filter is written as rules with commas between them: a level alone, a name alone, or
    `name=level`. The rule with the longest name that a record's target starts with decides whether
    the record is shown: its level must not matter less than the rule's. A rule that makes no sense
    is passed over, and without rules only errors are shown. Behind a slash may stand a pattern that
    must occur in the message of shown records; one that makes no sense is passed over too. -/

namespace Issuance

/-- A rule: the start of the targets it is for, if not all, and the rank of the last level shown. -/
structure LogRule where
  name : Option (List Char)
  rank : Nat
  deriving DecidableEq, Repr

/-- A log filter. -/
structure LogFilter where
  rules : List LogRule
  needle : Option Pattern := none
  deriving DecidableEq, Repr

namespace LogFilter

/-- The names of levels in small letters, by rank. -/
def levelNames : List (List Char) :=
  ["off".toList, "error".toList, "warn".toList, "info".toList, "debug".toList, "trace".toList]

/-- The rank that shows everything. -/
def allRank : Nat := 5

/-- The rank of a level by its name, in letters of any case. -/
def rank? (s : List Char) : Option Nat := levelNames.findIdx? fun n => n == s.map Char.toLower

/-- The rule that a text stands for. -/
def rule? (text : List Char) : Option LogRule :=
  match Text.splitOn '=' (Text.trim text) with
  | [] => none
  | [s] =>
    if s = [] then none
    else
      match rank? s with
      | some rank => some ⟨none, rank⟩
      | none => some ⟨some s, allRank⟩
  | [name, level] =>
    let level := Text.trim level
    if level = [] then some ⟨some name, allRank⟩
    else (rank? level).map fun rank => ⟨some name, rank⟩
  | _ => none

/-- Adds a rule; one for the same name is replaced. -/
def addRule (rules : List LogRule) (r : LogRule) : List LogRule :=
  if rules.any (fun q => q.name == r.name) then
    rules.map fun q => if q.name == r.name then r else q
  else rules ++ [r]

/-- The filter that a text stands for. -/
def ofText (text : List Char) : LogFilter :=
  let rulesOf (s : List Char) : List LogRule :=
    ((Text.splitOn ',' s).filterMap rule?).foldl addRule []
  let orErrors (rules : List LogRule) : List LogRule :=
    if rules = [] then [⟨none, Level.error.rank⟩] else rules
  match Text.splitOn '/' text with
  | [rules] => ⟨orErrors (rulesOf rules), none⟩
  | [rules, needle] => ⟨orErrors (rulesOf rules), Pattern.ofText? needle⟩
  | _ => ⟨orErrors [], none⟩

/-- How long a start a rule asks for. -/
def reach (r : LogRule) : Nat := (r.name.map List.length).getD 0

/-- The rule that decides for a target: the longest, and of equally long ones the last. -/
def deciding? (rules : List LogRule) (target : List Char) : Option LogRule :=
  (rules.filter fun r => (r.name.getD []).isPrefixOf target).foldl
    (fun best r =>
      match best with
      | some b => if reach b ≤ reach r then some r else some b
      | none => some r)
    none

/-- Whether a record is shown. -/
def shows (f : LogFilter) (e : Event) : Bool :=
  match deciding? f.rules e.target.toList with
  | none => false
  | some r =>
    e.level.rank ≤ r.rank && f.needle.all fun needle => needle.occursIn e.message.toList

end LogFilter
end Issuance
