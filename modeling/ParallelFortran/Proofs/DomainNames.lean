import Mathlib.Data.List.Induction
import ParallelFortran.Proofs.DomainMerge
import ParallelFortran.Proofs.Table

/-! The names that the domains of a template get from the regions. -/

namespace ParallelFortran

open Xml List

namespace Symbol

def filed (names : NamesBySize) (size : String) : List String :=
  (names.get? size).getD []

def namesOf (size : String) (domains : List Domain) : List String :=
  ((domains.filter (·.size = size)).map Domain.name).eraseDups

/-- A domain takes the name whose number is that of the domains of its size in front of it. -/
def renamed (names : String → List String) (domains : List Domain) (place : Nat) (domain : Domain) :
    Domain :=
  ⟨(names domain.size)[(domains.take place).countP (·.size = domain.size)]?.getD domain.name,
    domain.size⟩

theorem filed_addNames (domains : List Domain) (size : String) :
    filed (domains.foldl addName .empty) size = namesOf size domains := by
  induction domains using reverseRecOn with
  | nil => rfl
  | append_singleton domains domain ih =>
    rw [foldl_append]
    simp only [filed, namesOf, foldl_cons, foldl_nil, addName, Table.get?_set] at ih ⊢
    by_cases same : size = domain.size
    · subst same
      simp only [filter_append, map_append, eraseDups_append, ih]
      generalize (domains.filter fun other => other.size = domain.size).map Domain.name = earlier
      by_cases known : domain.name ∈ earlier <;> simp [known, removeAll, eraseDups_cons]
    · simp [same, Ne.symm same, ih]

theorem nameDomains_cons (names : NamesBySize) {domain : Domain} (sized : domain.size ≠ ":")
    (domains : List Domain) : ∃ others, nameDomains names (domain :: domains) =
        ⟨(filed names domain.size).head?.getD domain.name, domain.size⟩ :: nameDomains others domains ∧
      ∀ size, filed others size =
        if size = domain.size then (filed names size).tail else filed names size := by
  rw [nameDomains, if_neg (by simp [sized])]
  unfold filed takeName
  cases found : names.get? domain.size with
  | none => exact ⟨names, by simp, by grind⟩
  | some listed =>
    cases listed with
    | nil => exact ⟨names, by simp, by grind⟩
    | cons name rest => exact ⟨names.set domain.size rest, by simp, by grind [Table.get?_set]⟩

theorem getElem?_nameDomains (names : NamesBySize) {domains : List Domain}
    (sized : ∀ domain ∈ domains, domain.size ≠ ":") (place : Nat) :
    (nameDomains names domains)[place]? =
      domains[place]?.map (renamed (filed names) domains place) := by
  induction domains generalizing names place with
  | nil => simp [nameDomains]
  | cons first rest ih =>
    rw [forall_mem_cons] at sized
    obtain ⟨others, same, left⟩ := nameDomains_cons names sized.1 rest
    rw [same]
    cases place with
    | zero => simp [renamed, head?_eq_getElem?]
    | succ place =>
      rw [getElem?_cons_succ, ih others sized.2]
      congr 1
      funext domain
      simp only [renamed, left]
      by_cases earlier : domain.size = first.size
      · simp [earlier]
      · simp [earlier, Ne.symm earlier]

theorem getElem?_matchDomains (sizes : Table String (List String)) (domains : List Domain)
    {template : List Domain} (sized : ∀ domain ∈ template, domain.size ≠ ":") (place : Nat) :
    (matchDomains template template sizes (domains.foldl addName .empty)).domains[place]? =
      template[place]?.map (renamed (namesOf · (domains ++ template)) template place) := by
  have missing : (template.filter fun domain =>
      !template.any fun other => other.size == domain.size) = [] := by
    simp only [filter_eq_nil_iff, Bool.not_eq_true', Bool.not_eq_false, any_eq_true, beq_iff_eq]
    exact fun domain member => ⟨domain, member, rfl⟩
  simp only [matchDomains, ite_self, missing, nil_append]
  rw [← foldl_append, getElem?_nameDomains _ sized, funext (filed_addNames _)]

end Symbol

namespace Registry

open ParallelFortran.Symbol Merging

variable {registry : Registry} {id : SymbolId} {regions : List NodeId} {listed : List (List Domain)}

theorem loadRegionDomains_yields {store : Store} (same : registry.store = store)
    (given : regions.mapM (CallGraph.dependantDomains store) = .ok listed) :
    Yields (loadRegionDomains id regions) registry fun names after =>
      names = listed.flatten.foldl addName .empty ∧ after.symbols.size = registry.symbols.size := by
  unfold loadRegionDomains
  generalize Table.empty = names
  rw [mapM_eq_ok_iff] at given
  induction given generalizing registry names with
  | nil => exact .pure ⟨rfl, rfl⟩
  | cons read _ ih =>
    simp only [foldlM_cons, bind_assoc]
    rw [← same] at read
    refine .step (run_get _) (.step (run_outcome read _) (.step rfl ?_))
    refine (ih ?_ _).weaken ?_
    · exact same
    · rintro names after ⟨rfl, size⟩
      exact ⟨by rw [flatten_cons, foldl_append], size.trans Array.size_modify⟩

/-- A domain of a template need not keep its name: those of one size are named in turn, with the names
of the regions before those of the template. -/
theorem loadDomains_renames {template : List Domain} (known : id.index < registry.symbols.size)
    (manual : (registry.symbol id).isAutoDom = false)
    (given : regions.mapM (CallGraph.dependantDomains registry.store) = .ok listed)
    (sized : ∀ domain ∈ template, domain.size ≠ ":") :
    Yields (loadDomains id (some template) regions) registry fun _ after => ∀ place,
      (domainsOf id after)[place]? = template[place]?.map
        (renamed (namesOf · (listed.flatten ++ template)) template place) := by
  refine .step rfl (.step rfl (.step rfl ?_))
  have tentative : (registry.symbol id).tentativeDomains? (some template) = some template := by
    simp [tentativeDomains?, manual]
  rw [tentative]
  refine .step rfl (.bind (loadRegionDomains_yields rfl given) ?_)
  rintro _ between ⟨rfl, size⟩
  refine .step rfl (.step rfl (.step rfl ⟨(), _, rfl, fun place => ?_⟩))
  have bound : id.index < between.symbols.size := by
    rw [size]
    simpa using known
  refine Eq.trans ?_ (getElem?_matchDomains (between.symbol id).kernelSizes _ sized place)
  simp [domainsOf, Registry.symbol, Array.getElem_modify, bound]

def region : Registry :=
  { symbols := #[{ name := "a" }]
    store := ((addTree ⟨0⟩ (.element "parallelRegionTemplate" [] [
      .element "domName" [] [.element "entry" [] [.text "y"]],
      .element "domSize" [] [.element "entry" [] [.text "N"]]])).run {}).2 }

theorem loadDomains_renames_region :
    Yields (loadDomains ⟨0⟩ (some [⟨"x", "N"⟩, ⟨"y", "N"⟩]) [⟨0⟩]) region fun _ after =>
      (domainsOf ⟨0⟩ after)[0]? = some ⟨"y", "N"⟩ := by
  have read : [⟨0⟩].mapM (CallGraph.dependantDomains region.store) = .ok [[⟨"y", "N"⟩]] := rfl
  exact (loadDomains_renames (by decide) rfl read (by decide)).weaken fun _ _ named => named 0

end Registry

end ParallelFortran
