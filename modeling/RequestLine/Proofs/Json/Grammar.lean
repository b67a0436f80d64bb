import RequestLine.Json.Reader
import RequestLine.Proofs.Double.Written

set_option autoImplicit false

/-!
The grammar of JSON: which texts stand for which values, without regard to how they are read.
Containers take the language of their items as a parameter, and so does a level of nesting the
language of the level below it.

A text can also go wrong by its nesting alone. `Exceeds` tells how: in front of the bracket that
opens the level too many there is nothing that the grammar does not allow.
-/

namespace RequestLine.Json.Grammar

open Reader (Piece)

def Blanks (t : Text) : Prop := ∀ s ∈ t, Reader.isBlank s = true

instance (t : Text) : Decidable (Blanks t) := inferInstanceAs (Decidable (∀ s ∈ t, _))

theorem blanks_nil : Blanks [] := by simp [Blanks]

inductive Content : Text → List Piece → Prop where
  | nil : Content [] []
  | plain {s : Symbol} {t : Text} {ps : List Piece} (shown : 0x20 ≤ s.code) (quote : s ≠ .char '"')
      (backslash : s ≠ .char '\\') (rest : Content t ps) : Content (s :: t) (.whole s :: ps)
  | escape {s : Symbol} {c : Char} {t : Text} {ps : List Piece}
      (letter : Reader.escaped? s = some c) (rest : Content t ps) :
      Content (.char '\\' :: s :: t) (.whole (.char c) :: ps)
  | unit {a b c d : Symbol} {n : Nat} {t : Text} {ps : List Piece}
      (digits : Hex.read? [a, b, c, d] = some n) (rest : Content t ps) :
      Content (.char '\\' :: .char 'u' :: a :: b :: c :: d :: t) (.ofUnit n :: ps)

inductive IsString : Text → Text → Prop where
  | mk {t : Text} {ps : List Piece} (content : Content t ps) :
      IsString (.char '"' :: (t ++ [.char '"'])) (Piece.text ps)

inductive IsNumber : Text → Json → Prop where
  | int {negative : Bool} {whole : List Char} (each : AreDigits whole) (present : whole ≠ [])
      (leading : whole = ['0'] ∨ whole.head? ≠ some '0') (short : whole.length ≤ Text.maxDigits) :
      IsNumber (Double.withSign negative (whole.map .char))
        (.int (Double.signed negative (Numeral.natural whole)))
  | float {n : Numeral} {t : Text} (written : n.Written t) : IsNumber t (.float n.double)

inductive Scalar (dialect : Dialect) : Text → Json → Prop where
  | word {w : String × Json} (known : w ∈ Reader.words ++ Reader.constants dialect) :
      Scalar dialect (Text.ofString w.1) w.2
  | string {t s : Text} (string : IsString t s) : Scalar dialect t (.str s)
  | number {t : Text} {v : Json} (number : IsNumber t v) : Scalar dialect t v

section

variable {α : Type} (item : Text → α → Prop)

inductive Items : Text → List α → Prop where
  | last {t : Text} {x : α} (only : item t x) : Items t [x]
  | more {t before after rest : Text} {x : α} {xs : List α} (first : item t x)
      (front : Blanks before) (back : Blanks after) (others : Items rest xs) :
      Items (t ++ (before ++ .char ',' :: (after ++ rest))) (x :: xs)

inductive Enclosed (close : Char) : Text → List α → Prop where
  | empty {blanks : Text} (inner : Blanks blanks) : Enclosed close (blanks ++ [.char close]) []
  | items {before t after : Text} {xs : List α} (front : Blanks before) (items : Items item t xs)
      (back : Blanks after) : Enclosed close (before ++ (t ++ (after ++ [.char close]))) xs

inductive Reaches (next : Text → Prop) : Text → Prop where
  | here {t : Text} (reached : next t) : Reaches next t
  | later {t before after rest : Text} {x : α} (first : item t x) (front : Blanks before)
      (back : Blanks after) (others : Reaches next rest) :
      Reaches next (t ++ (before ++ .char ',' :: (after ++ rest)))

end

section

variable (value : Text → Json → Prop) (deep : Text → Prop)

inductive Member : Text → Text × Json → Prop where
  | mk {quoted key before after t : Text} {v : Json} (name : IsString quoted key)
      (front : Blanks before) (back : Blanks after) (body : value t v) :
      Member (quoted ++ (before ++ .char ':' :: (after ++ t))) (key, v)

inductive MemberReaches : Text → Prop where
  | mk {quoted key before after t : Text} (name : IsString quoted key) (front : Blanks before)
      (back : Blanks after) (reached : deep t) :
      MemberReaches (quoted ++ (before ++ .char ':' :: (after ++ t)))

inductive Level (dialect : Dialect) : Text → Json → Prop where
  | scalar {t : Text} {v : Json} (scalar : Scalar dialect t v) : Level dialect t v
  | arr {t : Text} {vs : List Json} (inner : Enclosed value ']' t vs) :
      Level dialect (.char '[' :: t) (.arr vs)
  | obj {t : Text} {ms : Members} (inner : Enclosed (Member value) '\x7d' t ms) :
      Level dialect (.char '\x7b' :: t) (.obj (collect ms))

inductive Descends : Text → Prop where
  | arr {before t : Text} (front : Blanks before) (inner : Reaches value deep t) :
      Descends (.char '[' :: (before ++ t))
  | obj {before t : Text} (front : Blanks before)
      (inner : Reaches (Member value) (MemberReaches deep) t) :
      Descends (.char '\x7b' :: (before ++ t))

end

/-- A value in which containers nest at most `depth` deep. -/
def Value (dialect : Dialect) : Nat → Text → Json → Prop
  | 0 => Scalar dialect
  | depth + 1 => Level (Value dialect depth) dialect

/-- Containers nest more than `depth` deep, and nothing is wrong before they do. -/
def Exceeds (dialect : Dialect) : Nat → Text → Prop
  | 0 => fun t => ∃ c rest, (c = '[' ∨ c = '\x7b') ∧ t = .char c :: rest
  | depth + 1 => Descends (Value dialect depth) (Exceeds dialect depth)

inductive Document (dialect : Dialect) (depth : Nat) : Text → Json → Prop where
  | mk {before t after : Text} {v : Json} (front : Blanks before) (value : Value dialect depth t v)
      (back : Blanks after) : Document dialect depth (before ++ (t ++ after)) v

/-- The text as far as it takes to open the level too many, behind blanks. -/
inductive Overruns (dialect : Dialect) (depth : Nat) : Text → Prop where
  | mk {before t : Text} (front : Blanks before) (deep : Exceeds dialect depth t) :
      Overruns dialect depth (before ++ t)

theorem mem_lenient {dialect : Dialect} {w : String × Json}
    (known : w ∈ Reader.words ++ Reader.constants dialect) :
    w ∈ Reader.words ++ Reader.constants .lenient := by
  cases dialect with
  | strict => exact List.mem_append_left _ (by simpa [Reader.constants] using known)
  | lenient => exact known

end RequestLine.Json.Grammar
