import MeshWatch.Logging.Directive

/-!
# Filters of notes

A filter is a list of directives, separated by commas. Directives that cannot be read are left
out; without any, only errors pass. Of the directives that cover a note the most specific one
decides about it.
-/
namespace MeshWatch.Logging

structure Filter where
  directives : List Directive

namespace Filter

/-- Lets nothing pass. -/
def closed : Filter := ⟨[]⟩

/-- The filter of a text, unless a directive in it is unusable. -/
def ofText? (s : String) : Option Filter :=
  let read := (Text.splitOn ',' s.toList).map Directive.ofText
  if read.any (· matches .error .unusable) then none
  else
    let directives := read.filterMap Except.toOption
    some ⟨if directives = [] then [{ Directive.any with level := Severity.error.rank }]
      else directives⟩

/-- Of two directives the one that names more of an origin; of two that name as much the one with
the finer demand, and the later one if these are alike. -/
def heavier (d d' : Directive) : Directive :=
  if d'.weight < d.weight ∨ d.weight = d'.weight ∧ d.isFiner d' then d else d'

/-- The directive that decides about a note. -/
def decides? (f : Filter) (n : Note) : Option Directive :=
  match f.directives.filter (·.covers n) with
  | [] => none
  | d :: rest => some (rest.foldl heavier d)

def passes (f : Filter) (n : Note) : Bool :=
  f.directives.any (fun d => d.follows n && d.lets n) || (f.decides? n).any (·.lets n)

end Filter

end MeshWatch.Logging
