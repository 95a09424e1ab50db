import ParallelFortran.Proofs.DeviceTransfers
import ParallelFortran.Symbol.Merge

/-! The domains of a symbol that has been merged with another one of as many domains. -/

namespace ParallelFortran

open List

namespace Domain

variable (mine other : Domain)

def Compatible : Prop :=
  mine = other ∨ mine.size = ":" ∨ other.size = ":" ∨
    mine.size = other.size ∧ (mine.name = "HF_GENERIC_DIM" ∨ other.name = "HF_GENERIC_DIM")

/-- Of two domains of one size, the one with a name of its own; of a domain without a size and another
one, the other one. -/
def moreSpecific : Domain :=
  if mine.size = ":" ∨ mine.name = "HF_GENERIC_DIM" then other else mine

def losesSize (pair : Domain × Domain) : Bool :=
  pair.1.size != ":" && pair.2.size == ":"

variable {mine other}

theorem mergeDomain?_eq (compatible : Compatible mine other) : Symbol.mergeDomain? mine other =
      if losesSize (mine, other) then none else some (moreSpecific mine other) := by
  obtain ⟨name, size⟩ := mine
  obtain ⟨otherName, otherSize⟩ := other
  simp only [Compatible] at compatible
  simp only [Symbol.mergeDomain?, losesSize, moreSpecific]
  grind

theorem mergeEach?_eq {mine other : List Domain} (compatible : Forall₂ Compatible mine other) :
    Symbol.mergeEach? mine other =
      if (mine.zip other).any losesSize then none else some (zipWith moreSpecific mine other) := by
  induction compatible with
  | nil => rfl
  | @cons mine other rest others first _ ih =>
    rw [Symbol.mergeEach?, mergeDomain?_eq first, ih, zip_cons_cons, any_cons]
    cases losesSize (mine, other) <;> cases (rest.zip others).any losesSize <;> rfl

end Domain

namespace Registry.Merging

open Backend (changed symbol_changed)
open Domain

variable {registry : Registry} {id other : SymbolId}

def domainsOf (id : SymbolId) (registry : Registry) : List Domain :=
  (registry.symbol id).domains.value

theorem change_framed {update : Symbol → Symbol}
    (same : ∀ symbol, (update symbol).domains = symbol.domains) :
    Advances (Same (domainsOf id)) (change id update) := by
  refine .modified fun registry => ?_
  have domains := congrArg (fun symbol => symbol.domains.value) (symbol_changed registry id id update)
  refine domains.trans ?_
  split
  · rw [same]
    rfl
  · rfl

theorem leads_of_advances {action : RegistryM Unit} {domains : List Domain}
    (kept : Advances (Same (domainsOf id)) action) (same : domainsOf id registry = domains) :
    Leads action registry (fun _ after => domainsOf id after = domains)
      fun after => domainsOf id after = domains := by
  have follows := kept.follows registry
  constructor
  all_goals
    intro _ _ run
    rw [run] at follows
    exact follows.trans same

section

variable (known : id.index < registry.symbols.size) (apart : id.index ≠ other.index)
  (mergeable : (registry.symbol id).isMergeable (registry.symbol other) = true)
  (manual : (registry.symbol id).isAutoDom = true → (registry.symbol other).isAutoDom = true)

include known apart mergeable manual

theorem merge_domains (same : (domainsOf id registry).length = (domainsOf other registry).length) :
    domainsOf id ((merge id other).run registry).2 =
      (Symbol.mergedDomains? (domainsOf id registry) (domainsOf other registry)).getD
        (domainsOf id registry) := by
  let fields := changed registry id fun symbol => symbol.mergeFields (registry.symbol other)
  have mine : fields.symbol id = (registry.symbol id).mergeFields (registry.symbol other) := by
    rw [symbol_changed, if_pos ⟨rfl, known⟩]
  have theirs : fields.symbol other = registry.symbol other := by
    rw [symbol_changed, if_neg fun both => apart both.1]
  have skips : ∀ state : Registry, (state.symbol id).isAutoDom = (fields.symbol id).isAutoDom →
      state.symbol other = fields.symbol other → ∀ regions,
        ¬ ((state.symbol id).isAutoDom && !(state.symbol other).isAutoDom && regions) = true := by
    intro state auto unchanged regions
    rw [auto, unchanged, mine, Symbol.mergeFields]
    grind
  suffices Leads (merge id other) registry (fun _ after => domainsOf id after = _) _ from this.reached
  unfold merge setOptions raiseStage
  refine .step rfl (.step rfl ?_)
  rw [mergeable]
  change Leads _ fields _ _
  cases given : Symbol.mergedDomains? (domainsOf id registry) (domainsOf other registry)
  all_goals
    unfold domainsOf at given
    rw [given]
  case some domains =>
    let naming (symbol : Symbol) : Symbol := { symbol with domains := ⟨fields.marks + 1, domains⟩ }
    let named := changed { fields with marks := fields.marks + 1 } id naming
    have own : named.symbol id = naming (fields.symbol id) := by
      rw [symbol_changed, if_pos ⟨rfl, by simpa [fields, changed] using known⟩]
      rfl
    have others : named.symbol other = fields.symbol other := by
      rw [symbol_changed, if_neg fun both => apart both.1]
      rfl
    have assigned : (setDomains id domains).run fields = (.ok (), named) := rfl
    refine .step assigned (.step rfl (.step rfl ?_))
    rw [if_neg (skips named (by rw [own]) others _)]
    exact leads_of_advances .composed (by rw [domainsOf, own]; rfl)
  case none =>
    refine .step rfl (.step rfl ?_)
    rw [if_neg (skips fields rfl rfl _)]
    refine leads_of_advances .composed ?_
    unfold domainsOf at same ⊢
    rw [mine, Symbol.mergeFields]
    grind

/-- A symbol keeps its domains, if the first ones are the same or one would lose its size; else each
becomes the more specific one. So it is also where the merge ends with a fault. -/
theorem merge_domains_eq
    (compatible : Forall₂ Compatible (domainsOf id registry) (domainsOf other registry)) :
    domainsOf id (ExceptT.run (merge id other) registry).2 =
      if (domainsOf id registry).head? = (domainsOf other registry).head? ∨
          ((domainsOf id registry).zip (domainsOf other registry)).any losesSize then
        domainsOf id registry
      else zipWith moreSpecific (domainsOf id registry) (domainsOf other registry) := by
  have sizes := compatible.length_eq
  rw [merge_domains known apart mergeable manual sizes, Symbol.mergedDomains?, mergeEach?_eq compatible]
  generalize domainsOf id registry = mine, domainsOf other registry = others at sizes
  by_cases equal : mine.head? = others.head?
  · simp [equal]
  · cases mine with
    | nil => simp_all
    | cons first rest =>
      rw [if_neg (by cases others <;> simp_all), if_neg (by simpa using equal)]
      cases ((first :: rest).zip others).any losesSize with
      | true => simp
      | false =>
        rw [if_neg (by simp), if_neg (by simpa using equal)]
        rfl

end

/-- The first symbol lacks the size of its first domain and the name of its second one. -/
def halves : Registry :=
  { symbols := #[{ name := "a", domains := ⟨1, [⟨"x", ":"⟩, ⟨"HF_GENERIC_DIM", "NY"⟩]⟩ },
      { name := "a", domains := ⟨2, [⟨"x", "NX"⟩, ⟨"y", "NY"⟩]⟩ }] }

theorem merge_domains_eq_halves :
    domainsOf ⟨0⟩ (ExceptT.run (merge ⟨0⟩ ⟨1⟩) halves).2 = [⟨"x", "NX"⟩, ⟨"y", "NY"⟩] := by
  refine (merge_domains_eq (by decide) (by decide) (by decide) (by decide) ?_).trans (by decide)
  exact .cons (.inr (.inl rfl)) (.cons (.inr (.inr (.inr ⟨rfl, .inl rfl⟩))) .nil)

end Registry.Merging

end ParallelFortran
