/-! Domains: the named dimensions of an array with their sizes. -/

namespace ParallelFortran

structure Domain where
  name : String
  size : String
  deriving DecidableEq, Repr, Inhabited

namespace Domain

def nextUnused? (sizes : List String) (used : List Nat) (size : String) : Option Nat :=
  (List.range sizes.length).find? fun index => sizes[index]? == some size && !used.contains index

def assign? (sizes : List String) : List Domain → List Nat → Option (List Nat)
  | [], _ => some []
  | domain :: domains, used => do
    let index ← nextUnused? sizes used domain.size
    let indices ← assign? sizes domains (index :: used)
    return index :: indices

/-- Puts domains into the order of the dimension sizes in a declaration. The order stays as it is if
the sizes are not known, or are not those of the domains. -/
def reorder (domains : List Domain) (sizes : List String) : List Domain :=
  if domains.length != sizes.length then domains
  else
    match assign? sizes domains [] with
    | none => domains
    | some indices =>
      (List.range sizes.length).filterMap fun index =>
        ((indices.zip domains).find? fun placed => placed.1 == index).map Prod.snd

end Domain

end ParallelFortran
