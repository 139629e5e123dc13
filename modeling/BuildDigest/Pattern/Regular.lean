set_option autoImplicit false

namespace BuildDigest

inductive Regular (α : Type) where
  | empty
  | atom (a : α)
  | seq (p q : Regular α)
  | alt (p q : Regular α)
  | times (low : Nat) (high : Option Nat) (p : Regular α)

namespace Regular

variable {α β : Type}

def map (f : α → β) : Regular α → Regular β
  | empty => empty
  | atom a => atom (f a)
  | seq p q => seq (p.map f) (q.map f)
  | alt p q => alt (p.map f) (q.map f)
  | times low high p => times low high (p.map f)

-- `n` moves in a row; once a move changes nothing, neither do the others.
def exactly (move : Nat → Nat) : Nat → Nat → Nat
  | 0, s => s
  | n + 1, s =>
      let next := move s
      if next = s then s else exactly move n next

def upTo (move : Nat → Nat) : Nat → Nat → Nat
  | 0, s => s
  | n + 1, s =>
      let next := s ||| move s
      if next = s then s else upTo move n next

-- The ends of the matches that start in `s`, in a text of `size` characters.
-- Without a limit, as many repetitions count as there are positions.
def reach (size : Nat) (move : α → Nat → Nat) : Regular α → Nat → Nat
  | empty, s => s
  | atom a, s => move a s
  | seq p q, s => reach size move q (reach size move p s)
  | alt p q, s => reach size move p s ||| reach size move q s
  | times low high p, s =>
      let started := exactly (reach size move p) low s
      match high with
      | some high => upTo (reach size move p) (high - low) started
      | none => upTo (reach size move p) (size + 1) started

end Regular

end BuildDigest
