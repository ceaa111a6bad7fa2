namespace TrackerQuery

def insertDistinct [LT α] [DecidableLT α] (a : α) : List α → List α
  | [] => [a]
  | b :: bs =>
    if a < b then a :: b :: bs
    else if b < a then b :: insertDistinct a bs
    else b :: bs

def distinct [LT α] [DecidableLT α] (as : List α) : List α :=
  as.foldr insertDistinct []

example : distinct [3, 1, 2, 3] = [1, 2, 3] := by decide

end TrackerQuery
