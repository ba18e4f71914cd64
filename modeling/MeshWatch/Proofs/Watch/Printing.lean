import Mathlib.Data.List.Destutter
import Mathlib.Data.List.Forall2
import Mathlib.Data.List.SplitBy
import MeshWatch.Watch.Printer

/-!
# Entries that are printed once

What a printer has printed after a row of views. The row falls into stretches in which every
history goes on from the one before it. Of each stretch exactly the entries of its last history
are printed, whatever views stand in between; so it does not matter which of those a watcher gets
to see. A stretch begins with a history that is shorter than the one before it: a printer cannot
tell a new session by anything else.
-/
namespace MeshWatch

theorem History.entriesSince_zero (h : History) : h.entriesSince 0 = h.entries := rfl

/-- Entries up to a shorter history and from there on are those of the longer one. -/
theorem History.entriesSince_append {h k : History} {n : Nat} (longer : h.records <+: k.records)
    (within : n ≤ h.length) : h.entriesSince n ++ k.entriesSince h.length = k.entriesSince n := by
  obtain ⟨added, joined⟩ := longer
  have rest : k.records.drop h.length = added := by
    rw [← joined]
    exact List.drop_left
  have whole : k.records.drop n = h.records.drop n ++ added := by
    rw [← joined]
    exact List.drop_append_of_le_length within
  rw [entriesSince, entriesSince, entriesSince, rest, whole, Event.translateAll,
    Event.translateAll, Event.translateAll, List.filterMap_append]

namespace Watch

open Monitor (View)

/-- The history of the second view goes on from that of the first one. -/
def Continues (v w : View) : Prop := v.history.records <+: w.history.records

instance : DecidableRel Continues := fun v w =>
  inferInstanceAs (Decidable (v.history.records <+: w.history.records))

theorem Continues.trans {u v w : View} (first : Continues u v) (second : Continues v w) :
    Continues u w :=
  List.IsPrefix.trans first second

instance : Trans Continues Continues Continues := ⟨Continues.trans⟩

theorem Continues.length_le {v w : View} (goes_on : Continues v w) :
    v.history.length ≤ w.history.length :=
  List.IsPrefix.length_le goes_on

/-! ## One stretch -/

namespace Printer

variable {p : Printer} {v : View} {vs ws : List View}

/-- Prints one view after another. -/
def printAll (p : Printer) : List View → List Addition
  | [] => []
  | v :: rest => (p.print v).1 :: (p.print v).2.printAll rest

/-- The printer after some views. -/
def after (p : Printer) (vs : List View) : Printer := vs.foldl (fun p v => (p.print v).2) p

@[simp]
theorem length_printAll : (p.printAll vs).length = vs.length := by
  induction vs generalizing p with
  | nil => rfl
  | cons v rest ih => simp [printAll, ih]

theorem printAll_append : p.printAll (vs ++ ws) = p.printAll vs ++ (p.after vs).printAll ws := by
  induction vs generalizing p with
  | nil => rfl
  | cons v rest ih =>
    rw [List.cons_append, printAll, printAll, ih]
    rfl

theorem offset_le : p.offset v ≤ v.history.length := by
  rw [offset]
  split <;> omega

/-- A view that goes on from the one printed last is printed from that one's end. -/
theorem offset_print {w : View} (goes_on : Continues v w) :
    (p.print v).2.offset w = v.history.length :=
  if_neg (Nat.not_lt.mpr goes_on.length_le)

theorem entryLines_print :
    (p.print v).1.entryLines = (v.history.entriesSince (p.offset v)).map LogEntry.displayText :=
  rfl

/-- From the place where the first view of a stretch is printed, its last history is printed. -/
theorem entryLines_stretch {last : View} (chain : (v :: vs).IsChain Continues)
    (ends : (v :: vs).getLast? = some last) :
    (p.printAll (v :: vs)).flatMap Addition.entryLines =
      (last.history.entriesSince (p.offset v)).map LogEntry.displayText ∧
    (p.after (v :: vs)).printed = last.history.length := by
  induction vs generalizing p v with
  | nil =>
    obtain rfl : v = last := Option.some.inj ends
    refine ⟨?_, rfl⟩
    simp [printAll, entryLines_print]
  | cons w rest ih =>
    obtain ⟨goes_on, chain⟩ := List.isChain_cons_cons.mp chain
    have ends' : (w :: rest).getLast? = some last := by simpa using ends
    obtain ⟨printed, done⟩ := ih (p := (p.print v).2) chain ends'
    refine ⟨?_, done⟩
    rw [offset_print goes_on] at printed
    have longer : Continues v last := by
      have ordered := List.isChain_iff_pairwise.mp (List.isChain_cons_cons.mpr ⟨goes_on, chain⟩)
      exact (List.pairwise_cons.mp ordered).1 last (List.mem_of_getLast? ends')
    rw [printAll, List.flatMap_cons, printed, entryLines_print, ← List.map_append,
      History.entriesSince_append longer offset_le]

end Printer

/-! ## Rows of stretches -/

/-- The longest stretches of a row of views in which each history goes on from the one before. -/
def stretches (vs : List View) : List (List View) := vs.splitBy fun v w => decide (Continues v w)

/-- Stretches that follow one another, each beginning with a shorter history. -/
inductive AreStretches : List (List View) → Prop
  | nil : AreStretches []
  | cons {g : List View} {gs : List (List View)} (nonempty : g ≠ [])
    (continued : g.IsChain Continues)
    (restarted : ∀ k ∈ gs.head?, ∀ last ∈ g.getLast?, ∀ first ∈ k.head?,
      first.history.length < last.history.length)
    (rest : AreStretches gs) : AreStretches (g :: gs)

/-- The views of a row may each go on from the one before or begin a shorter history. -/
def IsSteady (vs : List View) : Prop :=
  vs.IsChain fun v w => Continues v w ∨ w.history.length < v.history.length

/-- A part of what is printed logs the last history of a stretch of as many views. -/
def Logs (part : List Addition) (stretch : List View) : Prop :=
  part.length = stretch.length ∧ ∃ last, stretch.getLast? = some last ∧
    part.flatMap Addition.entryLines = last.history.entries.map LogEntry.displayText

/-- Some views between the first and the last one are left out. -/
def Thins (kept stretch : List View) : Prop :=
  kept.Sublist stretch ∧ kept.head? = stretch.head? ∧ kept.getLast? = stretch.getLast?

variable {p : Printer} {gs ks : List (List View)} {vs : List View}

theorem AreStretches.of_borders (nonempty : [] ∉ gs) (continued : ∀ g ∈ gs, g.IsChain Continues)
    (borders : gs.IsChain fun g k => ∃ some_last some_first,
      decide (Continues (g.getLast some_last) (k.head some_first)) = false)
    (steady : IsSteady gs.flatten) : AreStretches gs := by
  induction gs with
  | nil => exact .nil
  | cons g gs ih =>
    obtain ⟨first_nonempty, others_nonempty⟩ := not_or.mp (mt List.mem_cons.mpr nonempty)
    obtain ⟨first_continued, others_continued⟩ := List.forall_mem_cons.mp continued
    obtain ⟨border, borders⟩ := List.isChain_cons.mp borders
    rw [IsSteady, List.flatten_cons] at steady
    obtain ⟨-, others_steady, joint⟩ := List.isChain_append.mp steady
    refine .cons (Ne.symm first_nonempty) first_continued ?_
      (ih others_nonempty others_continued borders others_steady)
    intro k next last ends first begins
    obtain ⟨some_last, some_first, apart⟩ := border k next
    have at_last : g.getLast some_last = last := by
      rw [List.getLast?_eq_some_getLast some_last] at ends
      exact Option.some.inj ends
    have at_first : k.head some_first = first := by
      rw [List.head?_eq_some_head some_first] at begins
      exact Option.some.inj begins
    have flat_first : first ∈ gs.flatten.head? := by
      obtain ⟨others, rfl⟩ := List.head?_eq_some_iff.mp next
      simp [List.head?_append, Option.mem_def.mp begins]
    rw [at_last, at_first] at apart
    exact (joint last ends first flat_first).resolve_left (of_decide_eq_false apart)

/-- A steady row is cut where a shorter history begins. -/
theorem areStretches_stretches (steady : IsSteady vs) : AreStretches (stretches vs) := by
  have borders := List.isChain_getLast_head_splitBy (fun v w => decide (Continues v w)) vs
  refine .of_borders (List.nil_notMem_splitBy _ _) ?_ borders ?_
  · intro g member
    simpa using List.isChain_of_mem_splitBy member
  · rw [stretches, List.flatten_splitBy]
    exact steady

/-- Stretches of which views in between are left out are stretches. -/
theorem AreStretches.of_thins (thinned : List.Forall₂ Thins ks gs) (are : AreStretches gs) :
    AreStretches ks := by
  induction thinned with
  | nil => exact .nil
  | @cons kept g ks gs thins thinned ih =>
    obtain ⟨sublist, same_first, same_last⟩ := thins
    cases are with
    | cons nonempty continued restarted rest =>
      -- First and last views are kept, so a shorter history begins where one did before.
      refine .cons ?_ (continued.sublist sublist) ?_ (ih rest)
      · rintro rfl
        exact nonempty (List.head?_eq_none_iff.mp same_first.symm)
      · intro k next last ends first begins
        cases thinned with
        | nil => cases next
        | cons thins' _ =>
          obtain rfl := Option.some.inj next
          exact restarted _ rfl last (same_last ▸ ends) first (thins'.2.1 ▸ begins)

/-- Every stretch is logged, if the first one is printed from its beginning. -/
theorem AreStretches.exists_logs (are : AreStretches gs)
    (whole : ∀ g ∈ gs.head?, ∀ v ∈ g.head?, p.offset v = 0) :
    ∃ parts, parts.flatten = p.printAll gs.flatten ∧ List.Forall₂ Logs parts gs := by
  induction are generalizing p with
  | nil => exact ⟨[], rfl, .nil⟩
  | @cons g gs nonempty continued restarted rest ih =>
    obtain ⟨v, vs, rfl⟩ := List.exists_cons_of_ne_nil nonempty
    have ends := List.getLast?_eq_some_getLast nonempty
    obtain ⟨logged, done⟩ := Printer.entryLines_stretch (p := p) continued ends
    rw [whole _ rfl v rfl, History.entriesSince_zero] at logged
    have later : ∀ k ∈ gs.head?, ∀ w ∈ k.head?, (p.after (v :: vs)).offset w = 0 := by
      intro k next w begins
      rw [Printer.offset, done]
      exact if_pos (restarted k next _ ends w begins)
    obtain ⟨parts, joined, logs⟩ := ih later
    refine ⟨p.printAll (v :: vs) :: parts, ?_, .cons ?_ logs⟩
    · rw [List.flatten_cons, List.flatten_cons, Printer.printAll_append, joined]
    · exact ⟨Printer.length_printAll, _, ends, logged⟩

theorem entryLines_of_logs {parts : List (List Addition)} (logs : List.Forall₂ Logs parts gs) :
    parts.flatten.flatMap Addition.entryLines = gs.flatMap fun g =>
      (g.getLast?.map fun last => last.history.entries.map LogEntry.displayText).getD [] := by
  induction logs with
  | nil => rfl
  | cons first _ ih =>
    obtain ⟨-, last, ends, logged⟩ := first
    rw [List.flatten_cons, List.flatMap_append, List.flatMap_cons, ih, logged, ends]
    rfl

theorem offset_new {v : View} : Printer.new.offset v = 0 := by
  simp [Printer.offset, Printer.new]

theorem entryLines_thinned {parts : List (List Addition)} (are : AreStretches gs)
    (logs : List.Forall₂ Logs parts gs) (thinned : List.Forall₂ Thins ks gs) :
    (Printer.new.printAll ks.flatten).flatMap Addition.entryLines =
      parts.flatten.flatMap Addition.entryLines := by
  obtain ⟨parts', joined, logs'⟩ :=
    (are.of_thins thinned).exists_logs (p := .new) fun _ _ _ _ => offset_new
  rw [← joined, entryLines_of_logs logs, entryLines_of_logs logs']
  clear are logs logs' joined
  induction thinned with
  | nil => rfl
  | cons thins _ ih => rw [List.flatMap_cons, List.flatMap_cons, ih, thins.2.2]

/-! ## Numbers of peers -/

/-- How many peers a view shows, if it shows a topology. -/
def peerCount? (v : View) : Option Nat := v.topology.map (·.peers.length)

theorem print_of_uncounted {v : View} (uncounted : peerCount? v = none) :
    (p.print v).1.peerCount = none ∧ (p.print v).2.peerCount = p.peerCount := by
  have none_shown : v.topology.map (·.peers.length) = none := uncounted
  simp [Printer.print, none_shown]

theorem print_of_counted {v : View} {n : Nat} (counted : peerCount? v = some n) :
    (p.print v).1.peerCount = (if p.peerCount = some n then none else some n) ∧
    (p.print v).2.peerCount = some n := by
  have shown : v.topology.map (·.peers.length) = some n := counted
  by_cases same : p.peerCount = some n <;> simp [Printer.print, shown, same, eq_comm]

/-- After a number that is known, the numbers that are printed are those that differ from the one
before them. -/
theorem peerCounts_printAll_of_known {n : Nat} (known : p.peerCount = some n) :
    n :: (p.printAll vs).filterMap (·.peerCount) =
      (vs.filterMap peerCount?).destutter' (· ≠ ·) n := by
  induction vs generalizing p n with
  | nil => rfl
  | cons v rest ih =>
    rw [Printer.printAll]
    cases counted : peerCount? v with
    | none =>
      obtain ⟨printed, kept⟩ := print_of_uncounted (p := p) counted
      rw [List.filterMap_cons_none printed, List.filterMap_cons_none counted,
        ih (kept.trans known)]
    | some m =>
      obtain ⟨printed, kept⟩ := print_of_counted (p := p) counted
      rw [List.filterMap_cons_some counted, List.destutter'_cons]
      rw [known] at printed
      by_cases same : n = m
      · rw [if_pos (congrArg some same)] at printed
        rw [List.filterMap_cons_none printed, if_neg (not_not.mpr same), same]
        exact ih (same ▸ kept)
      · rw [if_neg (mt Option.some.inj same)] at printed
        rw [List.filterMap_cons_some printed, if_pos same, ih kept]

theorem peerCounts_printAll (unknown : p.peerCount = none) :
    (p.printAll vs).filterMap (·.peerCount) = (vs.filterMap peerCount?).destutter (· ≠ ·) := by
  induction vs generalizing p with
  | nil => rfl
  | cons v rest ih =>
    rw [Printer.printAll]
    cases counted : peerCount? v with
    | none =>
      obtain ⟨printed, kept⟩ := print_of_uncounted (p := p) counted
      rw [List.filterMap_cons_none printed, List.filterMap_cons_none counted,
        ih (kept.trans unknown)]
    | some n =>
      obtain ⟨printed, kept⟩ := print_of_counted (p := p) counted
      rw [unknown, if_neg nofun] at printed
      rw [List.filterMap_cons_some printed, List.filterMap_cons_some counted,
        List.destutter_cons', peerCounts_printAll_of_known kept]

theorem flatMap_countLines (additions : List Addition) :
    additions.flatMap Addition.countLines = (additions.filterMap (·.peerCount)).map peersLine := by
  induction additions with
  | nil => rfl
  | cons a rest ih =>
    rw [List.flatMap_cons, ih, Addition.countLines]
    cases counted : a.peerCount with
    | none => rw [List.filterMap_cons_none counted]; rfl
    | some n => rw [List.filterMap_cons_some counted]; rfl

/-- Of a steady row of views, every stretch logs exactly the entries of its last history, whatever
views between its first and its last one are left out, and the numbers of peers are those of the
views that show any, without immediate repetitions. -/
theorem printed_once (steady : IsSteady vs) :
    (∃ parts, parts.flatten = Printer.new.printAll vs ∧ List.Forall₂ Logs parts (stretches vs)) ∧
    (∀ kept, List.Forall₂ Thins kept (stretches vs) →
      (Printer.new.printAll kept.flatten).flatMap Addition.entryLines =
        (Printer.new.printAll vs).flatMap Addition.entryLines) ∧
    (Printer.new.printAll vs).flatMap Addition.countLines =
      ((vs.filterMap peerCount?).destutter (· ≠ ·)).map peersLine := by
  have are := areStretches_stretches steady
  obtain ⟨parts, joined, logs⟩ := are.exists_logs (p := .new) fun _ _ _ _ => offset_new
  rw [stretches, List.flatten_splitBy] at joined
  refine ⟨⟨parts, joined, logs⟩, ?_, ?_⟩
  · intro kept thinned
    rw [← joined]
    exact entryLines_thinned are logs thinned
  · rw [flatMap_countLines, peerCounts_printAll rfl]

/-- A view of an engine without peers that has reported these records. -/
def lonelyView (records : List RawRecord) : View :=
  { View.cleared with
    topology := some ⟨⟨"self", "2", none, [], .unknown, [], []⟩, []⟩
    history := ⟨records⟩ }

def listenerRecord : RawRecord :=
  "\x7b\"time\":\"2024-05-01T12:00:01\",\"event\":\x7b\"ListenerAdded\":\"tcp://h:1\"\x7d\x7d"

/-- Two records, the second of which has no translation, and then a new session. -/
def restartedViews : List View :=
  [.cleared, lonelyView [listenerRecord], lonelyView [listenerRecord, "x"], .cleared]

theorem printed_once_across_restart :
    IsSteady restartedViews ∧
    (∃ parts, parts.flatten = Printer.new.printAll restartedViews ∧ List.Forall₂ Logs parts
      [[.cleared, lonelyView [listenerRecord], lonelyView [listenerRecord, "x"]], [.cleared]]) ∧
    (Printer.new.printAll [.cleared, lonelyView [listenerRecord, "x"], .cleared]).flatMap
      Addition.entryLines = (Printer.new.printAll restartedViews).flatMap Addition.entryLines ∧
    (Printer.new.printAll restartedViews).flatMap Addition.countLines = ["-- 0 peer(s) --"] := by
  have steady : IsSteady restartedViews := by
    unfold IsSteady
    decide
  have cut : stretches restartedViews =
      [[.cleared, lonelyView [listenerRecord], lonelyView [listenerRecord, "x"]], [.cleared]] := by
    decide
  obtain ⟨logged, thinned, counted⟩ := printed_once steady
  rw [cut] at logged thinned
  refine ⟨steady, logged, ?_, counted⟩
  refine thinned [[.cleared, lonelyView [listenerRecord, "x"]], [.cleared]] ?_
  exact .cons ⟨by simp, rfl, rfl⟩ (.cons ⟨.refl _, rfl, rfl⟩ .nil)

end Watch

end MeshWatch
