import TableGateway.Query.Form

-- Query parameters: decoded pairs in the order of the request. A key may
-- stand in several pairs.

namespace TableGateway

/-- The parameters of a request. -/
structure Params where
  pairs : List (String × String) := []
deriving Repr, DecidableEq, Inhabited

namespace Params

/-! ## Making parameters -/

/-- The parameters of a query string. -/
def ofQuery (query : String) : Params :=
  ⟨Query.formPairs query⟩

/-- Adds a pair at the end. -/
def push (params : Params) (key value : String) : Params :=
  ⟨params.pairs ++ [(key, value)]⟩

/-! ## Looking up -/

/-- The value of the first pair with this key. -/
def get? (params : Params) (key : String) : Option String :=
  (params.pairs.find? fun pair => pair.1 == key).map Prod.snd

/-- The values of all pairs with this key, in order. -/
def getAll (params : Params) (key : String) : List String :=
  (params.pairs.filter fun pair => pair.1 == key).map Prod.snd

/-- The first value of a key, unless it is empty. -/
def given? (params : Params) (key : String) : Option String :=
  (params.get? key).filter (· ≠ "")

/-- Adds a key that is not there yet. -/
def addKey (keys : List String) (key : String) : List String :=
  if key ∈ keys then keys else keys ++ [key]

/-- The keys, each once, in the order of their first pairs. -/
def keys (params : Params) : List String :=
  params.pairs.foldl (fun keys pair => addKey keys pair.1) []

/-- There is no pair. -/
def isEmpty (params : Params) : Bool :=
  params.pairs.isEmpty

/-! ## Laws -/

theorem keys_push (params : Params) (k v : String) :
    (params.push k v).keys = addKey params.keys k := by
  simp [keys, push, List.foldl_append]

end Params

end TableGateway
