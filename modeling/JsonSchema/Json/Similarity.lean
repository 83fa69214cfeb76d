import JsonSchema.Json.Basic

namespace JsonSchema

def Number.similar (a b : Number) : Bool := a.same b || a.toBinary64.numEq b.toBinary64

namespace Json

mutual
def similar : Json → Json → Bool
  | number a, number b => a.similar b
  | array as, array bs => similarItems as bs
  | object as, object bs => as.length = bs.length && similarFields as bs
  | null, null => true
  | bool a, bool b => a == b
  | string a, string b => a == b
  | _, _ => false

def similarItems : List Json → List Json → Bool
  | [], [] => true
  | a :: as, b :: bs => similar a b && similarItems as bs
  | _, _ => false

def similarFields : List (String × Json) → List (String × Json) → Bool
  | [], _ => true
  | (k, a) :: as, bs =>
    (match Fields.get? bs k with
      | some b => similar a b
      | none => false) && similarFields as bs
end

-- Those values that come again, each once; `seen` holds those found before.
def repeatedAfter (seen : List Json) : List Json → List Json
  | [] => []
  | j :: rest =>
    if rest.any (similar j) && !seen.any (similar · j) then j :: repeatedAfter (seen ++ [j]) rest
    else repeatedAfter seen rest

-- The values that come more than once in a list, the first of each.
def repeated (items : List Json) : List Json := repeatedAfter [] items

def isMember (items : List Json) (j : Json) : Bool := items.any (· == j)

-- Adds what is not there yet, up to equality of documents, to the end of a list.
def addNew (found : List Json) : List Json → List Json
  | [] => found
  | j :: rest => if isMember found j then addNew found rest else addNew (found ++ [j]) rest

def distinct (items : List Json) : List Json := addNew [] items

def union (left right : List Json) : List Json := distinct (left ++ right)

def intersect (left right : List Json) : List Json := distinct (left.filter (isMember right))

end Json

end JsonSchema
