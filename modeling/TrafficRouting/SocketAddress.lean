/-!
# TrafficRouting.SocketAddress — which texts name an address and a port

`isSocketAddress` accepts `1.2.3.4:80` and `[1::8]:80`. Numbers of an IPv4 address have no needless
zeros; an IPv6 address has eight groups, or fewer around one `::`, may end in an IPv4 address, and
may carry a numeric scope.

The readers yield the rest of the text behind what they read.
-/

namespace TrafficRouting.SocketAddress

/-- The rest behind an expected character. -/
def expect (c : Char) : List Char → Option (List Char)
  | d :: rest => if d = c then some rest else none
  | [] => none

/-- The character is a decimal digit. -/
def isDecimal (c : Char) : Bool := '0' ≤ c && c ≤ '9'

/-- The character is a hexadecimal digit. -/
def isHex (c : Char) : Bool := isDecimal c || ('a' ≤ c && c ≤ 'f') || ('A' ≤ c && c ≤ 'F')

/-- The number with these decimal digits. -/
def decimal (ds : List Char) : Nat := ds.foldl (fun n d => n * 10 + (d.toNat - 48)) 0

/-- A decimal number of at most `max`. -/
def number (max : Nat) (s : List Char) : Option (List Char) :=
  let ds := s.takeWhile isDecimal
  if ds ≠ [] ∧ decimal ds ≤ max then some (s.dropWhile isDecimal) else none

/-- A number of an IPv4 address. -/
def octet (s : List Char) : Option (List Char) :=
  let ds := s.takeWhile isDecimal
  if 1 < ds.length ∧ ds.head? = some '0' then none
  else if 3 < ds.length then none
  else number 255 s

/-- An IPv4 address. -/
def ipv4 (s : List Char) : Option (List Char) := do
  octet (← expect '.' (← octet (← expect '.' (← octet (← expect '.' (← octet s))))))

/-- A group of an IPv6 address. -/
def group (s : List Char) : Option (List Char) :=
  let ds := s.takeWhile isHex
  if ds ≠ [] ∧ ds.length ≤ 4 then some (s.dropWhile isHex) else none

/-- As many groups as there are, at most `limit`, a colon in front of each but the first; an IPv4
address counts as two and ends them. Yields their number, whether an IPv4 address ended them, and
the rest. -/
def groups : Nat → Bool → List Char → Nat × Bool × List Char
  | 0, _, s => (0, false, s)
  | limit + 1, first, s =>
    let behind (read : List Char → Option (List Char)) : Option (List Char) :=
      if first then read s else (expect ':' s).bind read
    match if 0 < limit then behind ipv4 else none with
    | some rest => (2, true, rest)
    | none =>
      match behind group with
      | some rest =>
        let r := groups limit false rest
        (r.1 + 1, r.2)
      | none => (0, false, s)

/-- An IPv6 address. -/
def ipv6 (s : List Char) : Option (List Char) :=
  match groups 8 true s with
  | (8, _, rest) => some rest
  | (_, true, _) => none
  | (n, false, rest) => do
    let rest ← expect ':' (← expect ':' rest)
    return (groups (7 - n) true rest).2.2

/-- The scope of an IPv6 address, if there is one. -/
def scope (s : List Char) : List Char :=
  ((expect '%' s).bind (number (Nat.pow 2 32 - 1))).getD s

/-- A port behind a colon. -/
def port (s : List Char) : Option (List Char) := (expect ':' s).bind (number (Nat.pow 2 16 - 1))

/-- An IPv4 address with a port. -/
def v4 (s : List Char) : Option (List Char) := (ipv4 s).bind port

/-- An IPv6 address in brackets with a port. -/
def v6 (s : List Char) : Option (List Char) := do
  let s ← ipv6 (← expect '[' s)
  port (← expect ']' (scope s))

end TrafficRouting.SocketAddress

namespace TrafficRouting

/-- The text is an address with a port. -/
def isSocketAddress (s : String) : Bool :=
  (SocketAddress.v4 s.toList <|> SocketAddress.v6 s.toList) = some []

end TrafficRouting
