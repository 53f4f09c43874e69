import RuleAudit.Text.Basic

/-!
Base64: every three bytes as four characters, the last group filled up with equals signs.
-/

namespace RuleAudit.Text.Base64

/-- The sixty-four characters. -/
def alphabet : Text := "ABCDEFGHIJKLMNOPQRSTUVWXYZabcdefghijklmnopqrstuvwxyz0123456789+/"

/-- The character of a number below sixty-four. -/
def letter (n : Nat) : Char := alphabet.getD n 'A'

/-- The text of some bytes. -/
def encode : List UInt8 → Text
  | [] => []
  | [a] =>
    let n := a.toNat * 16
    [letter (n / 64), letter (n % 64), '=', '=']
  | [a, b] =>
    let n := (a.toNat * 256 + b.toNat) * 4
    [letter (n / 4096), letter (n / 64 % 64), letter (n % 64), '=']
  | a :: b :: c :: rest =>
    let n := (a.toNat * 256 + b.toNat) * 256 + c.toNat
    letter (n / 262144) :: letter (n / 4096 % 64) :: letter (n / 64 % 64) :: letter (n % 64)
      :: encode rest

end RuleAudit.Text.Base64
