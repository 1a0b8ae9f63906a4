import PromptRelay.Http

namespace PromptRelay.Http

def base64Digit (n : Nat) : Char :=
  "ABCDEFGHIJKLMNOPQRSTUVWXYZabcdefghijklmnopqrstuvwxyz0123456789+/".toList.getD n '='

def base64 : List UInt8 → List Char
  | [] => []
  | [a] =>
    let n := a.toNat * 0x10
    [base64Digit (n / 0x40), base64Digit (n % 0x40), '=', '=']
  | [a, b] =>
    let n := (a.toNat * 0x100 + b.toNat) * 4
    [base64Digit (n / 0x1000), base64Digit (n / 0x40 % 0x40), base64Digit (n % 0x40), '=']
  | a :: b :: c :: bs =>
    let n := a.toNat * 0x10000 + b.toNat * 0x100 + c.toNat
    base64Digit (n / 0x40000) :: base64Digit (n / 0x1000 % 0x40) ::
      base64Digit (n / 0x40 % 0x40) :: base64Digit (n % 0x40) :: base64 bs

namespace Url

/-- The user and the password of an address, unless the user is no text. A password that is no text
does not count. -/
def credentials? (u : Url) : Option (List Char × Option (List Char)) := do
  let user ← Utf8.decode? (decode u.user.toList)
  let password := u.password.bind fun p => Utf8.decode? (decode p.toList)
  if user.isEmpty && password.isNone then none else some (user, password)

def userAuthorization? (u : Url) : Option String :=
  u.credentials?.map fun (user, password) =>
    "Basic " ++ String.ofList (base64 (Utf8.encode (user ++ ':' :: password.getD [])))

def withoutUser (u : Url) : Url :=
  if u.credentials?.isSome then { u with user := "", password := none } else u

end Url

end PromptRelay.Http
