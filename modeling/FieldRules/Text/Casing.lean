/-
Case of characters. `lowercase` is the full lower-case mapping of a text, with the final form of
sigma at the end of a word; `caseVariants` lists the characters that differ from a given one in
case only, which is the equivalence of simple case folding.
-/
import FieldRules.Text.Property

namespace FieldRules.Text

/-! ## Lower case -/

/-- Runs of characters with a lower-case form one character long: the run, `/2` when it holds every
second code point only, and the lower-case form of its first member. -/
def lowercaseText : List String :=
    ["41-5A:61 C0-D6:E0 D8-DE:F8 100-12E/2:101 132-136/2:133 139-147/2:13A 14A-176/2:14B 178:FF",
     "179-17D/2:17A 181:253 182-184/2:183 186:254 187:188 189-18A:256 18B:18C 18E:1DD 18F:259 190:25B",
     "191:192 193:260 194:263 196:269 197:268 198:199 19C:26F 19D:272 19F:275 1A0-1A4/2:1A1 1A6:280",
     "1A7:1A8 1A9:283 1AC:1AD 1AE:288 1AF:1B0 1B1-1B2:28A 1B3-1B5/2:1B4 1B7:292 1B8:1B9 1BC:1BD 1C4:1C6",
     "1C5:1C6 1C7:1C9 1C8:1C9 1CA:1CC 1CB-1DB/2:1CC 1DE-1EE/2:1DF 1F1:1F3 1F2-1F4/2:1F3 1F6:195 1F7:1BF",
     "1F8-21E/2:1F9 220:19E 222-232/2:223 23A:2C65 23B:23C 23D:19A 23E:2C66 241:242 243:180 244:289",
     "245:28C 246-24E/2:247 370-372/2:371 376:377 37F:3F3 386:3AC 388-38A:3AD 38C:3CC 38E-38F:3CD",
     "391-3A1:3B1 3A3-3AB:3C3 3CF:3D7 3D8-3EE/2:3D9 3F4:3B8 3F7:3F8 3F9:3F2 3FA:3FB 3FD-3FF:37B",
     "400-40F:450 410-42F:430 460-480/2:461 48A-4BE/2:48B 4C0:4CF 4C1-4CD/2:4C2 4D0-52E/2:4D1 531-556:561",
     "10A0-10C5:2D00 10C7:2D27 10CD:2D2D 13A0-13EF:AB70 13F0-13F5:13F8 1C90-1CBA:10D0 1CBD-1CBF:10FD",
     "1E00-1E94/2:1E01 1E9E:DF 1EA0-1EFE/2:1EA1 1F08-1F0F:1F00 1F18-1F1D:1F10 1F28-1F2F:1F20",
     "1F38-1F3F:1F30 1F48-1F4D:1F40 1F59-1F5F/2:1F51 1F68-1F6F:1F60 1F88-1F8F:1F80 1F98-1F9F:1F90",
     "1FA8-1FAF:1FA0 1FB8-1FB9:1FB0 1FBA-1FBB:1F70 1FBC:1FB3 1FC8-1FCB:1F72 1FCC:1FC3 1FD8-1FD9:1FD0",
     "1FDA-1FDB:1F76 1FE8-1FE9:1FE0 1FEA-1FEB:1F7A 1FEC:1FE5 1FF8-1FF9:1F78 1FFA-1FFB:1F7C 1FFC:1FF3",
     "2126:3C9 212A:6B 212B:E5 2132:214E 2160-216F:2170 2183:2184 24B6-24CF:24D0 2C00-2C2F:2C30 2C60:2C61",
     "2C62:26B 2C63:1D7D 2C64:27D 2C67-2C6B/2:2C68 2C6D:251 2C6E:271 2C6F:250 2C70:252 2C72:2C73",
     "2C75:2C76 2C7E-2C7F:23F 2C80-2CE2/2:2C81 2CEB-2CED/2:2CEC 2CF2:2CF3 A640-A66C/2:A641",
     "A680-A69A/2:A681 A722-A72E/2:A723 A732-A76E/2:A733 A779-A77B/2:A77A A77D:1D79 A77E-A786/2:A77F",
     "A78B:A78C A78D:265 A790-A792/2:A791 A796-A7A8/2:A797 A7AA:266 A7AB:25C A7AC:261 A7AD:26C A7AE:26A",
     "A7B0:29E A7B1:287 A7B2:29D A7B3:AB53 A7B4-A7C2/2:A7B5 A7C4:A794 A7C5:282 A7C6:1D8E A7C7-A7C9/2:A7C8",
     "A7D0:A7D1 A7D6-A7D8/2:A7D7 A7F5:A7F6 FF21-FF3A:FF41 10400-10427:10428 104B0-104D3:104D8",
     "10570-1057A:10597 1057C-1058A:105A3 1058C-10592:105B3 10594-10595:105BB 10C80-10CB2:10CC0",
     "118A0-118BF:118C0 16E40-16E5F:16E60 1E900-1E921:1E922"]

structure CaseRun where
  first : Nat
  last : Nat
  step : Nat
  target : Nat
deriving Inhabited

def CaseRun.ofText (cs : List Char) : CaseRun :=
  match splitAt ':' cs with
  | [run, lower] =>
    match splitAt '/' run with
    | [range, _] => let (a, b) := CodeRanges.rangeOfText range; ⟨a, b, 2, hexValue lower⟩
    | _ => let (a, b) := CodeRanges.rangeOfText run; ⟨a, b, 1, hexValue lower⟩
  | _ => ⟨0, 0, 1, 0⟩

def caseRuns : Array CaseRun :=
  ((lowercaseText.flatMap fun line => splitAt ' ' line.toList).map CaseRun.ofText).toArray

/-- The lower-case form of a character on its own. -/
def lowercaseChar (c : Char) : List Char :=
  let n := c.toNat
  if n < 128 then [c.toLower]
  else if n = 0x130 then ['i', '\u0307']
  else match caseRuns.find? fun r => r.first ≤ n && n ≤ r.last && (n - r.first) % r.step == 0 with
    | some r => [Char.ofNat (n - r.first + r.target)]
    | none => [c]

def casedRanges : CodeRanges := Property.cased.ranges

def caseIgnorableRanges : CodeRanges := Property.caseIgnorable.ranges

/-- Whether the first character that is not ignored for case has a case. -/
def meetsCased (cs : List Char) : Bool :=
  match cs.dropWhile fun c => caseIgnorableRanges.contains c.toNat with
  | [] => false
  | c :: _ => casedRanges.contains c.toNat

/-- Lower case of a text, given the characters in front of it from right to left. -/
def lowercaseAfter : List Char → List Char → List Char
  | _, [] => []
  | before, c :: cs =>
    let form :=
      if c = 'Σ' then if meetsCased before && !meetsCased cs then ['ς'] else ['σ']
      else lowercaseChar c
    form ++ lowercaseAfter (c :: before) cs

def lowercase (s : String) : String :=
  String.ofList (lowercaseAfter [] s.toList)

/-! ## Case variants -/

/-- Pairs of characters that differ in case only, as runs of the first members with the second member
of the first pair; `/2` when a run holds every second code point only. -/
def casePairText : List String :=
    ["41-4A:61 4C-5A/2:6C 4D-51/2:6D 55-59/2:75 C0-DE/2:E0 C1-C3/2:E1 C7-D5/2:E7 D9-DD/2:F9 DF:1E9E",
     "FF:178 100-12E/2:101 132-136/2:133 139-147/2:13A 14A-176/2:14B 179-17D/2:17A 180:243 181:253",
     "182-184/2:183 186:254 187:188 189-18A:256 18B:18C 18E:1DD 18F:259 190:25B 191:192 193:260 194:263",
     "195:1F6 196:269 197:268 198:199 19A:23D 19C:26F 19D:272 19E:220 19F:275 1A0-1A4/2:1A1 1A6:280",
     "1A7:1A8 1A9:283 1AC:1AD 1AE:288 1AF:1B0 1B1-1B2:28A 1B3-1B5/2:1B4 1B7:292 1B8:1B9 1BC:1BD 1BF:1F7",
     "1CD-1DB/2:1CE 1DE-1EE/2:1DF 1F4:1F5 1F8-21E/2:1F9 222-232/2:223 23A:2C65 23B:23C 23E:2C66",
     "23F-240:2C7E 241:242 244:289 245:28C 246-24E/2:247 250:2C6F 251:2C6D 252:2C70 25C:A7AB 261:A7AC",
     "265:A78D 266:A7AA 26A:A7AE 26B:2C62 26C:A7AD 271:2C6E 27D:2C64 282:A7C5 287:A7B1 29D:A7B2 29E:A7B0",
     "370-372/2:371 376:377 37B-37D:3FD 37F:3F3 386:3AC 388-38A:3AD 38C:3CC 38E-38F:3CD 391-393/2:3B1",
     "394-396/2:3B4 397:3B7 39B-39F/2:3BB 39E:3BE 3A4-3A5:3C4 3A7-3A8:3C7 3AA-3AB:3CA 3CF:3D7",
     "3D8-3EE/2:3D9 3F2:3F9 3F7:3F8 3FA:3FB 400-40F:450 410-411:430 413-41F/2:433 416-41C/2:436 420:440",
     "423-429:443 42B-42F:44B 460:461 464-480/2:465 48A-4BE/2:48B 4C0:4CF 4C1-4CD/2:4C2 4D0-52E/2:4D1",
     "531-556:561 10A0-10C5:2D00 10C7:2D27 10CD:2D2D 10D0-10FA:1C90 10FD-10FF:1CBD 13A0-13EF:AB70",
     "13F0-13F5:13F8 1D79:A77D 1D7D:2C63 1D8E:A7C6 1E00-1E5E/2:1E01 1E62-1E94/2:1E63 1EA0-1EFE/2:1EA1",
     "1F00-1F07:1F08 1F10-1F15:1F18 1F20-1F27:1F28 1F30-1F37:1F38 1F40-1F45:1F48 1F51-1F57/2:1F59",
     "1F60-1F67:1F68 1F70-1F71:1FBA 1F72-1F75:1FC8 1F76-1F77:1FDA 1F78-1F79:1FF8 1F7A-1F7B:1FEA",
     "1F7C-1F7D:1FFA 1F80-1F87:1F88 1F90-1F97:1F98 1FA0-1FA7:1FA8 1FB0-1FB1:1FB8 1FB3:1FBC 1FC3:1FCC",
     "1FD0-1FD1:1FD8 1FE0-1FE1:1FE8 1FE5:1FEC 1FF3:1FFC 2132:214E 2160-216F:2170 2183:2184 24B6-24CF:24D0",
     "2C00-2C2F:2C30 2C60:2C61 2C67-2C6B/2:2C68 2C72:2C73 2C75:2C76 2C80-2CE2/2:2C81 2CEB-2CED/2:2CEC",
     "2CF2:2CF3 A640-A648/2:A641 A64C-A66C/2:A64D A680-A69A/2:A681 A722-A72E/2:A723 A732-A76E/2:A733",
     "A779-A77B/2:A77A A77E-A786/2:A77F A78B:A78C A790-A792/2:A791 A794:A7C4 A796-A7A8/2:A797 A7B3:AB53",
     "A7B4-A7C2/2:A7B5 A7C7-A7C9/2:A7C8 A7D0:A7D1 A7D6-A7D8/2:A7D7 A7F5:A7F6 FF21-FF3A:FF41",
     "10400-10427:10428 104B0-104D3:104D8 10570-10594/2:10597 10571-10579/2:10598 1057D-10589/2:105A4",
     "1058D-10591/2:105B4 10595:105BC 10C80-10CB2:10CC0 118A0-118BF:118C0 16E40-16E5F:16E60",
     "1E900-1E921:1E922"]

/-- Groups of more than two characters that differ in case only. -/
def caseGroupText : List String :=
    ["4B,6B,212A 53,73,17F C5,E5,212B 1C4,1C5,1C6 1C7,1C8,1C9 1CA,1CB,1CC 1F1,1F2,1F3 392,3B2,3D0",
     "395,3B5,3F5 398,3B8,3D1,3F4 345,399,3B9,1FBE 39A,3BA,3F0 B5,39C,3BC 3A0,3C0,3D6 3A1,3C1,3F1",
     "3A3,3C2,3C3 3A6,3C6,3D5 3A9,3C9,2126 412,432,1C80 414,434,1C81 41E,43E,1C82 421,441,1C83",
     "422,442,1C84,1C85 42A,44A,1C86 462,463,1C87 1E60,1E61,1E9B 1C88,A64A,A64B"]

def casePairs : List CaseRun :=
  (casePairText.flatMap fun line => splitAt ' ' line.toList).map CaseRun.ofText

def caseGroups : List (List Nat) :=
  (caseGroupText.flatMap fun line => splitAt ' ' line.toList).map fun g => (splitAt ',' g).map hexValue

/-- The other member of the pair that holds the code point `n`, on either side of the run. -/
def CaseRun.other? (r : CaseRun) (n : Nat) : Option Nat :=
  if r.first ≤ n ∧ n ≤ r.last ∧ (n - r.first) % r.step = 0 then some (n - r.first + r.target)
  else if r.target ≤ n ∧ n ≤ r.target + (r.last - r.first) ∧ (n - r.target) % r.step = 0 then
    some (n - r.target + r.first)
  else none

/-- The code points that differ from `n` in case only, `n` included. -/
def caseVariants (n : Nat) : List Nat :=
  match caseGroups.find? (·.contains n) with
  | some g => g
  | none =>
    match casePairs.findSome? (·.other? n) with
    | some m => [n, m]
    | none => [n]

end FieldRules.Text
