import RequestLine.Mime.EncodedWord

set_option autoImplicit false

namespace RequestLine.Mime

variable [Runtime]

def commented (s : Symbol) : Text :=
  if s = backslash ∨ s = .char '(' ∨ s = .char ')' then [backslash, s] else [s]

def after (written : Text) : Except Fault (Text × Text) → Except Fault (Text × Text)
  | .ok (more, rest) => .ok (written ++ more, rest)
  | .error f => .error f

/-- `depth` comments are open, at most `limit`. Outside of comments `flag` says that a blank has
just gone by, inside that a backslash has. -/
def gapFrom (limit : Nat) : Nat → Bool → Text → Except Fault (Text × Text)
  | 0, flag, s :: rest =>
    if isSpace s || (flag && s.isBlank) then after [s] (gapFrom limit 0 true rest)
    else if s = .char '(' then
      if limit = 0 then .error .nestedTooDeep else after [s] (gapFrom limit 1 false rest)
    else .ok ([], s :: rest)
  | depth + 1, flag, s :: rest =>
    if isSpace s then after [s] (gapFrom limit (depth + 1) false rest)
    else if flag then after (commented s) (gapFrom limit (depth + 1) false rest)
    else if s = backslash then gapFrom limit (depth + 1) true rest
    else if s = .char '(' then
      if limit ≤ depth + 1 then .error .nestedTooDeep
      else after [s] (gapFrom limit (depth + 2) false rest)
    else if s = .char ')' then after [s] (gapFrom limit depth false rest)
    else after (commented s) (gapFrom limit (depth + 1) false rest)
  | depth, _, [] => .ok (List.replicate depth (.char ')'), [])

def gap (limit : Nat) (t : Text) : Except Fault (Text × Text) := gapFrom limit 0 false t

def plainRun (escaped : Bool) : Text → Text × Text
  | [] => ([], [])
  | s :: rest =>
    if isSpace s then ([], s :: rest)
    else if s = backslash ∧ !escaped then plainRun true rest
    else if s = mark ∧ !escaped then ([], s :: rest)
    else
      let (run, rest) := plainRun false rest
      (s :: run, rest)

inductive Piece where
  | blank (t : Text)
  | plain (t : Text)
  | encoded (t : Text)

def Piece.join : List Piece → Text
  | .encoded t :: .blank _ :: .encoded u :: rest => t ++ Piece.join (.encoded u :: rest)
  | .blank t :: rest | .plain t :: rest | .encoded t :: rest => t ++ Piece.join rest
  | [] => []

def Piece.read (t : Text) : Piece × Text :=
  if t.head?.any isSpace then
    (.blank (t.takeWhile Symbol.isBlank), t.dropWhile Symbol.isBlank)
  else
    match EncodedWord.read? t with
    | some (word, rest) => (.encoded word, rest)
    | none => (.plain (plainRun false t).1, (plainRun false t).2)

def pieces : Nat → Text → List Piece × Text
  | 0, t => ([], t)
  | _, [] => ([], [])
  | fuel + 1, t =>
    if t.head? = some mark then ([], t.drop 1)
    else
      let (piece, rest) := Piece.read t
      let (more, rest) := pieces fuel rest
      (piece :: more, rest)

def quoted (t : Text) : Text × Text :=
  let (found, rest) := pieces (t.length + 1) t
  (Piece.join found, rest)

def word (t : Text) : Text × Text :=
  (EncodedWord.read? t).getD (t.takeWhile (!endsWord ·), t.dropWhile (!endsWord ·))

def phrasesFrom (limit : Nat) : Nat → Text → Except Fault (Text × Text)
  | 0, t => .ok ([], t)
  | _, [] => .ok ([], [])
  | fuel + 1, s :: rest =>
    if s = .char ';' then .ok ([], s :: rest)
    else if isMisplaced s || s == .char '.' then after [s] (phrasesFrom limit fuel rest)
    else if isSpace s || s == .char '(' then
      match gap limit (s :: rest) with
      | .ok (written, rest) => after written (phrasesFrom limit fuel rest)
      | .error f => .error f
    else if s = mark then
      let (content, rest) := quoted rest
      after (quote content) (phrasesFrom limit fuel rest)
    else
      let (written, rest) := word (s :: rest)
      after written (phrasesFrom limit fuel rest)

def phrases (limit : Nat) (t : Text) : Except Fault (Text × Text) :=
  phrasesFrom limit (t.length + 1) t

end RequestLine.Mime
