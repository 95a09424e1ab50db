import ParallelFortran.Proofs.CallArguments
import ParallelFortran.Proofs.EarlyExits

/-! The loops around the parallel regions of a routine: each has a label of its own, is closed behind the
region, and is the one that early exits from the region leave. -/

namespace ParallelFortran

open Xml List

namespace Backend

theorem label_injective : Function.Injective label := by
  intro left right same
  unfold label at same
  have letters := congrArg String.toList same
  simp only [String.toList_append] at letters
  have numbers := congrArg (fun digits => Nat.ofDigitChars 10 digits 0)
    (append_cancel_left letters)
  simpa [Nat.toString_eq_ofList_toDigits] using numbers

namespace Code

def labels : Code → List String
  | body => []
  | loop label _ inner => label.toList ++ inner.labels
  | stub label inner => label :: inner.labels

def ranges : Code → List CallGraph.LoopDomain
  | body => []
  | loop _ domain inner => domain :: inner.ranges
  | stub _ inner => inner.ranges

theorem labels_nest (number : Nat) {domains : List CallGraph.LoopDomain} (some : domains ≠ []) :
    (nest number domains).labels = [label number] := by
  have inside : ∀ domains, (loops domains).labels = [] := by
    intro domains
    induction domains with
    | nil => rfl
    | cons domain domains ih => exact ih
  unfold nest
  split
  · next empty => exact absurd (reverse_eq_nil_iff.mp empty) some
  · rw [labels, inside]
    rfl

theorem ranges_nest (number : Nat) (domains : List CallGraph.LoopDomain) :
    (nest number domains).ranges = domains.reverse := by
  have inside : ∀ domains, (loops domains).ranges = domains := by
    intro domains
    induction domains with
    | nil => rfl
    | cons domain domains ih => rw [loops, ranges, ih]
  rw [nest]
  cases domains.reverse with
  | nil => rfl
  | cons outer inner => rw [ranges, inside]

/-- The text before a region opens the loops, and the text behind it closes them. -/
inductive Encloses : Code → String → String → Prop
  | bare : Encloses .body "" ""
  | stub (label : String) : Encloses (.stub label .body)
      (Text.join "" ((Code.stub label .body).opening.map (· ++ "\n")))
      (Text.join "" ((Code.stub label .body).closing.map (· ++ "\n")))
  | loops {words : List String} (number : Nat) {domains : List CallGraph.LoopDomain}
      (directive trailer : String) (each : words.length = domains.length) :
      Encloses (.nest number domains)
        (Text.strip (directive ++
          Text.join "\n " (zipWith (· ++ ·) words (nest number domains).opening)) ++ "\n")
        (Text.strip (Text.join "" ((nest number domains).closing.map (· ++ "\n")) ++ trailer) ++ "\n")

end Code

variable {backend : Backend} {store : Store} {template : NodeId} {number : Nat}

theorem length_opening (number : Nat) (domains : List CallGraph.LoopDomain) :
    (Code.nest number domains).opening.length = domains.length := by
  rw [Code.opening_nest, loopLines, ← @length_reverse _ domains]
  cases domains.reverse with
  | nil => rfl
  | cons outer inner => simp

/-- A text that opens the loops over the domains of a region, each one behind words of its own. -/
def Opens (store : Store) (template : NodeId) (number : Nat) (text : String) : Prop :=
  ∃ domains directive words, CallGraph.loopDomains store template = .ok domains ∧
    words.length = domains.length ∧ text = directive ++
      Text.join "\n " (zipWith (· ++ ·) words (Code.nest number domains).opening)

section

variable (numbered : backend.kernelNumber = some number) {text : String}

include numbered

theorem opens_plain {directive : String} (made : (do
      return directive ++ (← loopsBegin backend.kernelNumber
        (← CallGraph.loopDomains store template))) = .ok text) :
    Opens store template number text := by
  obtain ⟨domains, known, made⟩ := parts_of_bind_eq_ok made
  rw [(writes numbered domains).begin] at made
  refine ⟨domains, directive, (Code.nest number domains).opening.map fun _ => "", known, ?_, ?_⟩
  · rw [length_map, length_opening]
  · rw [zipWith_map_left]
    simpa using (Except.ok.inj made).symm

theorem opens_openACC {symbols : List Symbol}
    (made : openACCBegin store backend symbols template = .ok text) :
    Opens store template number text := by
  obtain ⟨sizes, sized, made⟩ := parts_of_bind_eq_ok made
  obtain ⟨domains, known, made⟩ := parts_of_bind_eq_ok made
  obtain ⟨_, checked, made⟩ := parts_of_bind_eq_ok made
  obtain ⟨_, _, named⟩ := parts_of_bind_eq_ok sized
  cases named
  have few : domains.length ≤ 3 := by
    rw [checkDimensions] at checked
    split at checked
    · cases checked
    · next few =>
      simp only [Bool.or_eq_true, decide_eq_true_eq, not_or, Nat.not_lt] at few
      exact few.2
  rw [numbered] at made
  have shape := (Except.ok.inj made).symm
  rw [map_zip_eq_zipWith, ← Code.opening_nest] at shape
  exact ⟨domains, _, _, known, by simp [few], shape⟩

theorem opens_regionBegin {routine : Option RoutineView} {symbols : List Symbol}
    (host : backend.kind.isCuda = false)
    (begun : backend.regionBegin store routine symbols template = .ok text) :
    Opens store template number text := by
  unfold regionBegin at begun
  split at begun
  · obtain ⟨_, _, made⟩ := parts_of_bind_eq_ok begun
    exact opens_plain numbered made
  · exact opens_openACC numbered begun
  · exact opens_openACC numbered begun
  · exact opens_openACC numbered begun
  · next kind => rw [kind] at host; cases host
  · next kind => rw [kind] at host; cases host
  · next kind => rw [kind] at host; cases host
  · obtain ⟨domains, known, made⟩ := parts_of_bind_eq_ok begun
    refine @opens_plain _ _ _ _ numbered _ "" ?_
    rw [known]
    change (do return "" ++ (← loopsBegin backend.kernelNumber domains)) = _
    rw [made]
    simp [bind, Except.bind, pure, Except.pure]

end

theorem replaceExits_eq (host : backend.kind.isCuda = false)
    (numbered : backend.kernelNumber = some number) (text : String) :
    backend.replaceExits text = .ok (Text.replace "@exit" ("exit " ++ label number) text) := by
  rw [replaceExits]
  split
  · next empty =>
    rw [String.isEmpty_iff.mp empty]
    rfl
  · rw [earlyExit_eq numbered, jump, host]
    rfl

end Backend

namespace Work

open CallGraph
open Session (Firm Numbered Steady)
open Backend (Code label)
open Text (Shows join strip)

/-- A routine for a processor, and the number of its next loop with a label. -/
structure Counting (session : Session) (id : RoutineId) (body : RoutineBody) (number : Nat) : Prop where
  found : ∃ symbols, (session.routine id).body = some { body with symbols }
  known : body.backend.index < session.backends.size
  host : (session.backend body.backend).kind.isCuda = false
  numbered : (session.backend body.backend).kernelNumber = some number

/-- The code of a line, with a statement in the place of every early exit and the symbols as they are
accessed in a state. -/
def exitCode (state : Session) (context : AccessContext) (exit : String) (line : RegionLine) :
    Outcome String :=
  substitute (Text.replace "@exit" exit line.text) (line.symbols.map fun symbol =>
    ((state.symbol symbol).accessReplacement state.store context).quoting)

/-- A text that shows what is written for the lines in a state that a session has come to, with a
statement in the place of every early exit. -/
def Exits (session : Session) (id : RoutineId) (body : RoutineBody) (template : Option NodeId)
    (exit : String) (lines : List RegionLine) (text : String) : Prop :=
  ∃ state context codes, Steady session state ∧
    (accessIn body template).run state = (.ok context, state) ∧
    (linesCode id template lines).run state = (.ok (join "\n" codes), state) ∧
    Forall₂ (fun line code => exitCode state context exit line = .ok code) lines codes ∧
    Shows text (strip (join "\n" codes))

variable {session after : Session} {id : RoutineId} {body : RoutineBody} {number : Nat}

theorem Counting.onward (counting : Counting session id body number)
    {related : Option Nat → Option Nat → Prop} (follows : Firm related session after) {next : Nat}
    (numbered : (after.backend body.backend).kernelNumber = some next) :
    Counting after id body next := by
  obtain ⟨symbols, found⟩ := counting.found
  obtain ⟨current, found⟩ := follows.body found
  exact ⟨⟨current, found⟩, follows.size ▸ counting.known, (congrArg BackendKind.isCuda (follows.kind _)).trans
    counting.host, numbered⟩

theorem Counting.same (counting : Counting session id body number) (follows : Firm Eq session after) :
    Counting after id body number :=
  counting.onward follows ((follows.number _).symm.trans counting.numbered)

section

variable (counting : Counting session id body number) (template : Option NodeId) (isMarked : Bool)

include counting

theorem plainCode_exits (kind : RegionKind) (lines : List RegionLine) :
    Ensures (plainCode id template isMarked kind lines) session fun text _ =>
      Exits session id body template ("exit " ++ label number) lines text := by
  obtain ⟨symbols, found⟩ := counting.found
  have each : ∀ context line, Ensures (lineCode { body with symbols } context line) session
      fun code after => after = session ∧
        exitCode session context ("exit " ++ label number) line = .ok code := by
    intro context line
    refine .step (run_get session) ?_
    refine .step (run_outcome (Backend.replaceExits_eq counting.host counting.numbered _) session) ?_
    exact .outcome fun code made => ⟨rfl, made⟩
  have lined : Ensures (linesCode id template lines) session fun text after => after = session ∧
      ∃ context codes, (accessIn body template).run session = (.ok context, session) ∧
        Forall₂ (fun line code => exitCode session context ("exit " ++ label number) line = .ok code)
          lines codes ∧ text = join "\n" codes := by
    refine .step (run_body found) (.bind (fun _ _ run => run) fun context after accessed => ?_)
    obtain rfl : session = after := (accessIn_advances _ template).ensures session context after accessed
    exact .reading (.gather _ (each context)) fun codes related =>
      .pure ⟨rfl, context, codes, accessed, related, rfl⟩
  refine .bind (fun text after run => And.intro (lined text after run) run) ?_
  rintro _ state ⟨⟨rfl, context, codes, accessed, related, rfl⟩, run⟩
  refine .pure ⟨state, context, codes, refl_of Steady state, accessed, run, related, ?_⟩
  split
  · next empty => rw [String.isEmpty_iff.mp empty]; exact Text.shows_of_empty rfl _
  · exact (Text.shows_strip _).framed (Text.tight_strip _) isMarked kind

def hasLines (part : Region) : Bool :=
  part.kind == .plain || part.kind == .earlyExit

theorem part_exits {part : Region} (lined : hasLines part = true) :
    Ensures (regionCode id isMarked template part) session fun text _ =>
      Exits session id body template ("exit " ++ label number) part.lines text := by
  cases part with
  | plain lines => exact plainCode_exits counting template isMarked .plain lines
  | earlyExit lines =>
    refine .step (run_get session) ?_
    refine (body_advances id).looked fun _ => (symbolsOf_advances id).looked fun _ => ?_
    refine .bind ((exitRoutine_firm _ _ _ false).ensures session)
      fun exit between (follows : Firm Eq _ _) => ?_
    refine .bind (plainCode_exits (counting.same follows) template false .earlyExit lines) ?_
    rintro text _ ⟨state, context, codes, later, accessed, written, related, shown⟩
    refine .pure ⟨state, context, codes, trans_of Steady follows.toSteady later, accessed, written,
      related, ?_⟩
    have behind : Shows (exit ++ text) (strip (join "\n" codes)) := by
      simpa using shown.append exit ""
    exact behind.framed (Text.tight_strip _) isMarked .earlyExit
  | _ => cases lined

end

def isPart (part : Region) : Bool :=
  part.kind != .parallel && part.kind != .specification

theorem part_firm (template : Option NodeId) (isMarked : Bool) {part : Region}
    (simple : isPart part = true) : Advances (Firm Eq) (regionCode id isMarked template part) := by
  cases part with
  | plain lines => exact plainCode_advances id template isMarked .plain lines
  | earlyExit lines => exact earlyExitCode_firm id template isMarked lines
  | call lines callee passed => exact callCode_firm id template isMarked callee passed
  | _ => cases simple

/-- What stands for a part of a region in which the early exits leave the loops with some labels. -/
def PartCode (session : Session) (id : RoutineId) (body : RoutineBody) (isMarked : Bool)
    (own : Option NodeId) (labels : List String) (part : Region) (text : String) : Prop :=
  WrittenIn session id isMarked own part text ∧ (hasLines part = true → ∀ label ∈ labels,
    Exits session id body own ("exit " ++ label) part.lines text)

theorem PartCode.behind {own : Option NodeId} {labels : List String} {isMarked : Bool} {part : Region}
    {text : String} (follows : Steady session after)
    (code : PartCode after id body isMarked own labels part text) :
    PartCode session id body isMarked own labels part text := by
  obtain ⟨⟨state, last, later, run⟩, exits⟩ := code
  refine ⟨⟨state, last, trans_of Steady follows later, run⟩, fun lined label member => ?_⟩
  obtain ⟨state, context, codes, later, parts⟩ := exits lined label member
  exact ⟨state, context, codes, trans_of Steady follows later, parts⟩

section

variable (counting : Counting session id body number)

include counting

theorem parts_exits (template : Option NodeId) (isMarked : Bool) {parts : List Region}
    (simple : ∀ part ∈ parts, isPart part = true) :
    Ensures (regionCodes id isMarked template parts) session fun texts after =>
      Firm Eq session after ∧
        Forall₂ (PartCode session id body isMarked template [label number]) parts texts := by
  induction parts generalizing session with
  | nil => exact .pure ⟨refl_of (Firm Eq) session, .nil⟩
  | cons part parts ih =>
    obtain ⟨first, others⟩ := forall_mem_cons.mp simple
    have written : Ensures (regionCode id isMarked template part) session fun text after =>
        Firm Eq session after ∧ PartCode session id body isMarked template [label number] part text := by
      refine fun text after run => ⟨(part_firm template isMarked first).ensures session text after run,
        ⟨session, after, refl_of Steady session, run⟩, fun lined => ?_⟩
      simpa using part_exits counting template isMarked lined text after run
    refine .bind written ?_
    rintro text between ⟨follows, code⟩
    refine .bind (ih (counting.same follows) others) ?_
    rintro texts after ⟨later, related⟩
    exact .pure ⟨trans_of (Firm Eq) follows later,
      .cons code (related.imp fun _ _ => PartCode.behind follows.toSteady)⟩

theorem Counting.next :
    ((session.withBackend body.backend (session.backend body.backend).nextKernel).backend
      body.backend).kernelNumber = some (number + 1) := by
  rw [Session.backend_withBackend, if_pos ⟨rfl, counting.known⟩, Backend.nextKernel,
    counting.numbered]
  rfl

theorem endRegion_closes (template : NodeId) (routine : Option RoutineId) :
    Ensures (endRegion body.backend template routine false) session fun text after =>
      ∃ domains trailer, loopDomains session.store template = .ok domains ∧
        text = join "" ((Code.nest number domains).closing.map (· ++ "\n")) ++ trailer ∧
        (after.backend body.backend).kernelNumber = some (number + 1) := by
  have closed : ∀ {prints : Work String} directive early, Advances Eq prints →
      Ensures (do
        let domains ← (loopDomains (← store) template)
        let loops ← (Backend.loopsEnd (session.backend body.backend).kernelNumber domains)
        let late ← prints
        let _ ← (Backend.known (session.backend body.backend).kernelNumber)
        setBackend body.backend (session.backend body.backend).nextKernel
        return loops ++ late ++ directive ++ early) session fun text after =>
      ∃ domains trailer, loopDomains session.store template = .ok domains ∧
        text = join "" ((Code.nest number domains).closing.map (· ++ "\n")) ++ trailer ∧
        (after.backend body.backend).kernelNumber = some (number + 1) := by
    intro prints directive early reads
    have stored : store.run session = (.ok session.store, session) := rfl
    refine .step stored (.reading (.outcome fun _ known => ⟨rfl, known⟩) ?_)
    intro domains known
    refine .step (run_outcome (Backend.writes counting.numbered domains).ending session) ?_
    refine reads.looked fun late => Advances.looked (.outcome _) fun _ => ?_
    refine .step (run_modify _ session) (.pure ?_)
    refine ⟨domains, late ++ directive ++ early, known, ?_, counting.next⟩
    simp [String.append_assoc]
  refine .step (run_backend session _) ?_
  dsimp only
  rw [counting.host]
  have prints : ∀ {rest : Work String}, Advances Eq rest → Advances Eq (do
      if !(← (session.backend body.backend).printsDebug) then return ""
      rest : Work String) := by
    intro rest reads
    refine .bind (.outcome _) fun _ => ?_
    split
    · exact .pure _
    · exact reads
  split
  · next cuda => cases cuda
  · split
    on_goal 1 => refine .step (run_pure "" session) (closed _ _ (prints ?_))
    on_goal 2 => refine (prints ?_).looked fun early => closed _ _ (.pure "")
    all_goals
      split
      · exact regionPrints_advances _ _ template
      · exact .throw _

theorem endStub_closes : Ensures (endStub body.backend) session fun text after =>
      text = join "" ((Code.stub (label number) .body).closing.map (· ++ "\n")) ∧
        (after.backend body.backend).kernelNumber = some (number + 1) := by
  refine .step (run_backend session _) ?_
  refine .step (run_outcome (Backend.writes counting.numbered []).stubEnd session) ?_
  exact .step (run_modify _ session) (.pure ⟨rfl, counting.next⟩)

end

/-- The loops around a parallel region run over its domains where it is generated, and there are some
wherever the region can be left early. -/
structure Fits (store : Store) (body : RoutineBody) (own : Option NodeId) (parts : List Region)
    (code : Code) : Prop where
  ranges : store.value body.node "parallelRegionPosition" = "within" → ∀ template ∈ own,
    ∃ domains, loopDomains store template = .ok domains ∧ code.ranges = domains.reverse
  elsewhere : store.value body.node "parallelRegionPosition" ≠ "within" → code.ranges = []
  labelled : (Region.parallel own parts).mentions "@exit" = true → code.labels ≠ []

def Surrounds (session : Session) (id : RoutineId) (body : RoutineBody) (number : Nat) (code : Code)
    (around : Surround) : Prop :=
  ∀ state, Counting state id body number → state.store = session.store →
    Ensures around.behind state fun behind later => code.Encloses around.before behind ∧
      (later.backend body.backend).kernelNumber = some (number + code.labels.length)

theorem surround_encloses (counting : Counting session id body number) (own : Option NodeId)
    (parts : List Region) (filled : ∀ template ∈ own, loopDomains session.store template ≠ .ok []) :
    Ensures (surround id (.parallel own parts) own) session fun around _ =>
      ∃ code, (code.labels = [] ∨ code.labels = [label number]) ∧
        Fits session.store body own parts code ∧ Surrounds session id body number code around := by
  obtain ⟨symbols, found⟩ := counting.found
  refine .step (run_get session) (.step (run_body found) ?_)
  split
  · next template isWithin =>
    refine Advances.looked (.outcome _) fun _ => (symbolsOf_advances id).looked fun _ => ?_
    refine (viewOf_advances id).looked fun _ => .reading (.outcome fun _ begun => ⟨rfl, begun⟩) ?_
    intro before begun
    obtain ⟨domains, directive, words, known, each, rfl⟩ :=
      Backend.opens_regionBegin counting.numbered counting.host begun
    have some : domains ≠ [] := fun empty => filled template rfl (known.trans (empty ▸ rfl))
    have labelled := Code.labels_nest number some
    refine .pure ⟨.nest number domains, .inr labelled, ⟨?_, fun elsewhere => ?_, ?_⟩, ?_⟩
    · intro _ other given
      obtain rfl := Option.mem_some_iff.mp given
      exact ⟨domains, known, Code.ranges_nest number domains⟩
    · exact absurd (beq_iff_eq.mp isWithin) elsewhere
    · simp [labelled]
    · intro state counting same
      refine .bind (endRegion_closes counting template _) ?_
      rintro _ later ⟨others, trailer, again, rfl, numbered⟩
      rw [same, known] at again
      cases again
      refine .pure ⟨.loops number directive trailer each, ?_⟩
      rw [numbered, labelled]
      rfl
  · next own _ _ elsewhere =>
    have unplaced : session.store.value body.node "parallelRegionPosition" = "within" →
        ∀ template, template ∉ own := by
      rintro isWithin template rfl
      exact elsewhere template rfl (beq_iff_eq.mpr isWithin)
    split
    · next silent =>
      refine .pure ⟨.body, .inl rfl,
        ⟨fun isWithin _ has => absurd has (unplaced isWithin _), fun _ => rfl, ?_⟩, ?_⟩
      · intro mentioned
        simp [mentioned] at silent
      · exact fun state counting _ => .pure ⟨.bare, counting.numbered⟩
    · have begun := run_outcome (Backend.writes counting.numbered []).stubBegin session
      refine .step begun (.pure ?_)
      refine ⟨.stub (label number) .body, .inr rfl,
        ⟨fun isWithin _ has => absurd has (unplaced isWithin _), fun _ => rfl,
          fun _ => cons_ne_nil _ _⟩, ?_⟩
      intro state counting _
      refine (endStub_closes counting).weaken ?_
      rintro _ later ⟨rfl, numbered⟩
      exact ⟨.stub _, numbered⟩

section

variable (session : Session) (id : RoutineId) (body : RoutineBody) (isMarked : Bool)

/-- The code of a parallel region: what is written for its parts stands between the lines that open and
close the loops. Where it can be left early, a loop with a label stands around all of its lines, and is
the loop that they leave. -/
structure Looped (own : Option NodeId) (parts : List Region) (code : Code) (text : String) :
    Prop extends Fits session.store body own parts code where
  shown : ∃ before texts behind, code.Encloses before behind ∧
    text = Region.framed isMarked .parallel (before ++ join "\n" texts ++ behind) ∧
    Forall₂ (PartCode session id body isMarked own code.labels) parts texts

def IsCode : Region → Code × String → Prop
  | .parallel own parts, (code, text) => Looped session id body isMarked own parts code text
  | region, (code, text) => code = .body ∧ Written session id region text

end

theorem IsCode.behind {isMarked : Bool} {region : Region} {item : Code × String}
    (steady : Steady session after) (store : after.store = session.store)
    (isCode : IsCode after id body isMarked region item) :
    IsCode session id body isMarked region item := by
  cases region with
  | parallel own parts =>
    obtain ⟨fits, before, texts, behind, encloses, same, related⟩ := isCode
    exact ⟨store ▸ fits, before, texts, behind, encloses, same,
      related.imp fun _ _ => PartCode.behind steady⟩
  | _ =>
    obtain ⟨bare, isMarked, template, state, last, later, run⟩ := isCode
    exact ⟨bare, isMarked, template, state, last, trans_of Steady steady later, run⟩

/-- The region holds no others, and has domains if it is to be generated. -/
def Flat (store : Store) : Region → Prop
  | .parallel own parts => (∀ part ∈ parts, isPart part = true) ∧
    ∀ template ∈ own, loopDomains store template ≠ .ok []
  | _ => True

def GoesOn (session : Session) (body : RoutineBody) (number : Nat) (labels : List String) : Prop :=
  labels = (range' number labels.length).map label ∧
    (session.backend body.backend).kernelNumber = some (number + labels.length)

section

variable (counting : Counting session id body number) (isMarked : Bool) (template : Option NodeId)

include counting isMarked template

theorem parallel_isCode {own : Option NodeId} {parts : List Region}
    (flat : Flat session.store (.parallel own parts)) :
    Ensures (regionCode id isMarked template (.parallel own parts)) session fun text after =>
      ∃ code, IsCode session id body isMarked (.parallel own parts) (code, text) ∧
        GoesOn after body number code.labels := by
  refine .reading ((surround_advances id _ own).reading
    (surround_encloses counting own parts flat.2)) ?_
  rintro around ⟨code, numbered, fits, surrounds⟩
  refine .bind (parts_exits counting own isMarked flat.1) ?_
  rintro texts between ⟨follows, written⟩
  refine .bind (surrounds between (counting.same follows) follows.store) ?_
  rintro behind after ⟨encloses, next⟩
  refine .pure ⟨code, ⟨fits, around.before, texts, behind, encloses, rfl, ?_⟩, ?_, next⟩
  · refine written.imp fun part text holds => ⟨holds.1, fun lined label member => ?_⟩
    rcases numbered with none | one
    · simp [none] at member
    · exact holds.2 lined label (one ▸ member)
  · rcases numbered with none | one
    · rw [none]
      rfl
    · rw [one]
      rfl

theorem region_isCode {region : Region} (flat : Flat session.store region)
    (unspecified : region.kind ≠ .specification) :
    Ensures (regionCode id isMarked template region) session fun text after =>
      ∃ code, IsCode session id body isMarked region (code, text) ∧
        GoesOn after body number code.labels := by
  have alone : isPart region = true → region.isParallel = false →
      Ensures (regionCode id isMarked template region) session fun text after =>
        Written session id region text ∧ GoesOn after body number [] :=
    fun simple _ text after run => ⟨⟨isMarked, template, session, after, refl_of Steady session, run⟩,
      rfl, (counting.same ((part_firm template isMarked simple).ensures session text after run)).numbered⟩
  cases region with
  | parallel own parts => exact parallel_isCode counting isMarked template flat
  | specification lines dataLines context typeParameters => exact absurd rfl unspecified
  | _ =>
    refine (alone rfl rfl).weaken ?_
    rintro text after ⟨written, goesOn⟩
    exact ⟨.body, ⟨rfl, written⟩, goesOn⟩

theorem regionCodes_areCode {regions : List Region}
    (flat : ∀ region ∈ regions, Flat session.store region)
    (unspecified : ∀ region ∈ regions, region.kind ≠ .specification) :
    Ensures (regionCodes id isMarked template regions) session fun texts after =>
      ∃ items, texts = items.map Prod.snd ∧
        Forall₂ (IsCode session id body isMarked) regions items ∧
        GoesOn after body number (items.flatMap (·.1.labels)) := by
  induction regions generalizing session number with
  | nil => exact .pure ⟨[], rfl, .nil, rfl, counting.numbered⟩
  | cons region regions ih =>
    obtain ⟨first, others⟩ := forall_mem_cons.mp flat
    obtain ⟨firstKind, otherKinds⟩ := forall_mem_cons.mp unspecified
    refine .bind (fun text between run => And.intro
      (region_isCode counting isMarked template first firstKind text between run)
      ((regionCode_firm id isMarked template region).ensures session text between run)) ?_
    rintro text between ⟨⟨code, isCode, labels, next⟩, follows⟩
    refine .bind (ih (counting.onward follows next) (follows.store ▸ others) otherKinds) ?_
    rintro _ after ⟨items, rfl, areCode, more, last⟩
    refine .pure ⟨(code, text) :: items, rfl, .cons isCode (areCode.imp fun _ _ =>
      IsCode.behind follows.toSteady follows.store), ?_, ?_⟩
    · rw [flatMap_cons, length_append, range'_append_1.symm, map_append, ← labels,
        ← more]
    · rw [last, flatMap_cons, length_append, Nat.add_assoc]

end

def hostRelay : Session := { relay with backends := #[.new .plain []] }

def hostLoops : List Region := [
  .parallel (some ⟨4⟩) [.plain [⟨"a(i) = 1", []⟩], .earlyExit [⟨"@exit", []⟩]],
  .parallel none [.plain [⟨"if (done) @exit", []⟩]]]

theorem hostLoops_filled : (loopDomains hostRelay.store ⟨4⟩).toOption ≠ some [] := by
  decide +kernel

theorem hostLoops_written :
    ((regionCodes ⟨1⟩ false none hostLoops).run hostRelay).1.toOption.isSome := by
  decide +kernel

def unnamedRelay : Session :=
  let bare (node : Node) : Node := { node with children := #[] }
  { hostRelay with registry := { relay.registry with store :=
    { relayStore with nodes := (relayStore.nodes.modify 18 bare).modify 21 bare } } }

end Work

end ParallelFortran
