/-!
# Documents in object notation

A document is a tree of texts, integers, flags, sequences and maps. A map has text keys in
increasing order, each once.
-/

namespace Skirmish

/-- A document, or a part of one. -/
inductive Ron where
  | text (value : String)
  | integer (value : Int)
  | flag (value : Bool)
  | seq (items : List Ron)
  | map (entries : List (String × Ron))
  deriving Repr, Inhabited

namespace Ron

/-- An entry put into a list that is ordered by keys; an entry of the same key gives way. -/
def insertKey (key : String) (value : Ron) : List (String × Ron) → List (String × Ron)
  | [] => [(key, value)]
  | (k, v) :: rest =>
    if key < k then (key, value) :: (k, v) :: rest
    else if key = k then (key, value) :: rest
    else (k, v) :: insertKey key value rest

/-- A map of entries; of two with one key the later counts. -/
def record (entries : List (String × Ron)) : Ron :=
  .map (entries.foldl (fun acc e => insertKey e.1 e.2 acc) [])

end Ron

end Skirmish
