import JuryCaptions.Text.Printable
/-!
Lower and upper case.

Letters are mapped by the simple case mappings of Unicode 17.0; special casing
that would turn one letter into several is not applied. Each table lists runs
of letters with the same distance to their image: every letter of the run, or
every second letter from its first.
-/

namespace JuryCaptions
namespace Case

/-- A signed decimal number, as `+32` or `-199`. -/
def signedNumber (s : String) : Int :=
  match s.toList with
  | '-' :: ds => -((String.ofList ds).toNat?.getD 0 : Int)
  | _ :: ds => (String.ofList ds).toNat?.getD 0
  | [] => 0

/-- A run of a case table: its code points as `first..last` in hexadecimal, or one
alone, then the distance added, signed and in decimal, and `/2` when the run takes
every second letter. -/
def readRun (w : String) : Nat × Nat × Int × Nat :=
  let cs := w.toList
  let points := cs.takeWhile fun c => c != '+' && c != '-'
  let (a, b) := Printable.readRange (String.ofList points)
  match (String.ofList (cs.drop points.length)).splitOn "/" with
  | [d, s] => (a, b, signedNumber d, s.toNat?.getD 1)
  | d :: _ => (a, b, signedNumber d, 1)
  | [] => (a, b, 0, 1)

def readRuns (text : String) : Array (Nat × Nat × Int × Nat) :=
  ((Blank.fields text).map readRun).toArray

/-- Runs of the lower-case mapping. -/
def lowerRuns : Array (Nat × Nat × Int × Nat) := readRuns
  "41..5A+32 C0..D6+32 D8..DE+32 100..12E+1/2 130-199 132..136+1/2 139..147+1/2 14A..176+1/2 178-121
179..17D+1/2 181+210 182..184+1/2 186+206 187+1 189..18A+205 18B+1 18E+79 18F+202 190+203 191+1
193+205 194+207 196+211 197+209 198+1 19C+211 19D+213 19F+214 1A0..1A4+1/2 1A6+218 1A7+1 1A9+218
1AC+1 1AE+218 1AF+1 1B1..1B2+217 1B3..1B5+1/2 1B7+219 1B8+1 1BC+1 1C4+2 1C5+1 1C7+2 1C8+1 1CA+2
1CB..1DB+1/2 1DE..1EE+1/2 1F1+2 1F2..1F4+1/2 1F6-97 1F7-56 1F8..21E+1/2 220-130 222..232+1/2
23A+10795 23B+1 23D-163 23E+10792 241+1 243-195 244+69 245+71 246..24E+1/2 370..372+1/2 376+1
37F+116 386+38 388..38A+37 38C+64 38E..38F+63 391..3A1+32 3A3..3AB+32 3CF+8 3D8..3EE+1/2 3F4-60
3F7+1 3F9-7 3FA+1 3FD..3FF-130 400..40F+80 410..42F+32 460..480+1/2 48A..4BE+1/2 4C0+15
4C1..4CD+1/2 4D0..52E+1/2 531..556+48 10A0..10C5+7264 10C7+7264 10CD+7264 13A0..13EF+38864
13F0..13F5+8 1C89+1 1C90..1CBA-3008 1CBD..1CBF-3008 1E00..1E94+1/2 1E9E-7615 1EA0..1EFE+1/2
1F08..1F0F-8 1F18..1F1D-8 1F28..1F2F-8 1F38..1F3F-8 1F48..1F4D-8 1F59..1F5F-8/2 1F68..1F6F-8
1F88..1F8F-8 1F98..1F9F-8 1FA8..1FAF-8 1FB8..1FB9-8 1FBA..1FBB-74 1FBC-9 1FC8..1FCB-86 1FCC-9
1FD8..1FD9-8 1FDA..1FDB-100 1FE8..1FE9-8 1FEA..1FEB-112 1FEC-7 1FF8..1FF9-128 1FFA..1FFB-126
1FFC-9 2126-7517 212A-8383 212B-8262 2132+28 2160..216F+16 2183+1 24B6..24CF+26 2C00..2C2F+48
2C60+1 2C62-10743 2C63-3814 2C64-10727 2C67..2C6B+1/2 2C6D-10780 2C6E-10749 2C6F-10783 2C70-10782
2C72+1 2C75+1 2C7E..2C7F-10815 2C80..2CE2+1/2 2CEB..2CED+1/2 2CF2+1 A640..A66C+1/2 A680..A69A+1/2
A722..A72E+1/2 A732..A76E+1/2 A779..A77B+1/2 A77D-35332 A77E..A786+1/2 A78B+1 A78D-42280
A790..A792+1/2 A796..A7A8+1/2 A7AA-42308 A7AB-42319 A7AC-42315 A7AD-42305 A7AE-42308 A7B0-42258
A7B1-42282 A7B2-42261 A7B3+928 A7B4..A7C2+1/2 A7C4-48 A7C5-42307 A7C6-35384 A7C7..A7C9+1/2
A7CB-42343 A7CC..A7DA+1/2 A7DC-42561 A7F5+1 FF21..FF3A+32 10400..10427+40 104B0..104D3+40
10570..1057A+39 1057C..1058A+39 1058C..10592+39 10594..10595+39 10C80..10CB2+64 10D50..10D65+32
118A0..118BF+32 16E40..16E5F+32 16EA0..16EB8+27 1E900..1E921+34"

def upperRuns : Array (Nat × Nat × Int × Nat) := readRuns
  "61..7A-32 B5+743 E0..F6-32 F8..FE-32 FF+121 101..12F-1/2 131-232 133..137-1/2 13A..148-1/2
14B..177-1/2 17A..17E-1/2 17F-300 180+195 183..185-1/2 188-1 18C-1 192-1 195+97 199-1 19A+163
19B+42561 19E+130 1A1..1A5-1/2 1A8-1 1AD-1 1B0-1 1B4..1B6-1/2 1B9-1 1BD-1 1BF+56 1C5-1 1C6-2 1C8-1
1C9-2 1CB-1 1CC-2 1CE..1DC-1/2 1DD-79 1DF..1EF-1/2 1F2-1 1F3-2 1F5-1 1F9..21F-1/2 223..233-1/2
23C-1 23F..240+10815 242-1 247..24F-1/2 250+10783 251+10780 252+10782 253-210 254-206 256..257-205
259-202 25B-203 25C+42319 260-205 261+42315 263-207 264+42343 265+42280 266+42308 268-209 269-211
26A+42308 26B+10743 26C+42305 26F-211 271+10749 272-213 275-214 27D+10727 280-218 282+42307
283-218 287+42282 288-218 289-69 28A..28B-217 28C-71 292-219 29D+42261 29E+42258 345+84
371..373-1/2 377-1 37B..37D+130 3AC-38 3AD..3AF-37 3B1..3C1-32 3C2-31 3C3..3CB-32 3CC-64
3CD..3CE-63 3D0-62 3D1-57 3D5-47 3D6-54 3D7-8 3D9..3EF-1/2 3F0-86 3F1-80 3F2+7 3F3-116 3F5-96
3F8-1 3FB-1 430..44F-32 450..45F-80 461..481-1/2 48B..4BF-1/2 4C2..4CE-1/2 4CF-15 4D1..52F-1/2
561..586-48 10D0..10FA+3008 10FD..10FF+3008 13F8..13FD-8 1C80-6254 1C81-6253 1C82-6244
1C83..1C84-6242 1C85-6243 1C86-6236 1C87-6181 1C88+35266 1C8A-1 1D79+35332 1D7D+3814 1D8E+35384
1E01..1E95-1/2 1E9B-59 1EA1..1EFF-1/2 1F00..1F07+8 1F10..1F15+8 1F20..1F27+8 1F30..1F37+8
1F40..1F45+8 1F51..1F57+8/2 1F60..1F67+8 1F70..1F71+74 1F72..1F75+86 1F76..1F77+100 1F78..1F79+128
1F7A..1F7B+112 1F7C..1F7D+126 1F80..1F87+8 1F90..1F97+8 1FA0..1FA7+8 1FB0..1FB1+8 1FB3+9 1FBE-7205
1FC3+9 1FD0..1FD1+8 1FE0..1FE1+8 1FE5+7 1FF3+9 214E-28 2170..217F-16 2184-1 24D0..24E9-26
2C30..2C5F-48 2C61-1 2C65-10795 2C66-10792 2C68..2C6C-1/2 2C73-1 2C76-1 2C81..2CE3-1/2
2CEC..2CEE-1/2 2CF3-1 2D00..2D25-7264 2D27-7264 2D2D-7264 A641..A66D-1/2 A681..A69B-1/2
A723..A72F-1/2 A733..A76F-1/2 A77A..A77C-1/2 A77F..A787-1/2 A78C-1 A791..A793-1/2 A794+48
A797..A7A9-1/2 A7B5..A7C3-1/2 A7C8..A7CA-1/2 A7CD..A7DB-1/2 A7F6-1 AB53-928 AB70..ABBF-38864
FF41..FF5A-32 10428..1044F-40 104D8..104FB-40 10597..105A1-39 105A3..105B1-39 105B3..105B9-39
105BB..105BC-39 10CC0..10CF2-64 10D70..10D85-32 118C0..118DF-32 16E60..16E7F-32 16EBB..16ED3-27
1E922..1E943-34"

/-- The character that a table of runs maps `c` to, or `c` itself when no run of
the table holds it. -/
def mapByRuns (runs : Array (Nat × Nat × Int × Nat)) (c : Char) : Char :=
  let n := c.toNat
  match runs.find? (fun (a, b, _, _) => a ≤ n ∧ n ≤ b) with
  | some (a, _, d, step) =>
    if (n - a) % step = 0 then Char.ofNat ((n : Int) + d).toNat else c
  | none => c

def lowerChar (c : Char) : Char :=
  let n := c.toNat
  if n < 0x80 then (if 0x41 ≤ n ∧ n ≤ 0x5A then Char.ofNat (n + 32) else c)
  else mapByRuns lowerRuns c

def lower (s : String) : String := String.ofList (s.toList.map lowerChar)

def upperChar (c : Char) : Char :=
  let n := c.toNat
  if n < 0x80 then (if 0x61 ≤ n ∧ n ≤ 0x7A then Char.ofNat (n - 32) else c)
  else mapByRuns upperRuns c

def upper (s : String) : String := String.ofList (s.toList.map upperChar)

end Case
end JuryCaptions
