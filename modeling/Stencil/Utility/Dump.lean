import Stencil.Utility.Lines
import Stencil.Zip.Digest

/-! # Bytes as text

Utilities that print bytes by their numbers, as text of a small alphabet, or as a digest.
-/

namespace Stencil

open Shell (ByteText)

namespace Utility

/-- How bytes are printed: in groups of a size, in the notation of a letter. -/
structure DumpStyle where
  size : Nat
  letter : Char

/-- The name of a character that is not printed as it is. -/
def characterName (named : Bool) (c : Char) : ByteText :=
  let names := ["nul", "soh", "stx", "etx", "eot", "enq", "ack", "bel", "bs", "ht", "nl", "vt", "ff",
    "cr", "so", "si", "dle", "dc1", "dc2", "dc3", "dc4", "nak", "syn", "etb", "can", "em", "sub", "esc",
    "fs", "gs", "rs", "us", "sp"]
  if named then
    let code := c.toNat % 128
    if code = 127 then "del".toList
    else match names[code]? with
      | some name => name.toList
      | none => [Char.ofNat code]
  else
    match c with
    | '\x00' => "\\0".toList
    | '\x07' => "\\a".toList
    | '\x08' => "\\b".toList
    | '\t' => "\\t".toList
    | '\n' => "\\n".toList
    | '\x0b' => "\\v".toList
    | '\x0c' => "\\f".toList
    | '\r' => "\\r".toList
    | c =>
      if ' ' ≤ c && c ≤ '~' then [c]
      else
        let digits := Nat.toDigits 8 c.toNat
        List.replicate (3 - digits.length) '0' ++ digits

/-- A number of a number of bytes, with zeros in front. -/
def fixedDigits (base width value : Nat) : ByteText :=
  let digits := Nat.toDigits base value
  List.replicate (width - digits.length) '0' ++ digits

def dumpGroup (style : DumpStyle) (group : ByteText) : ByteText :=
  let value : Nat := group.foldr (fun c value => value * 256 + c.toNat) 0
  let signed : Int := if 2 ^ (8 * style.size - 1) ≤ value then (value : Int) - 2 ^ (8 * style.size) else value
  let pad (width : Nat) (text : ByteText) : ByteText := List.replicate (width - text.length) ' ' ++ text
  match style.letter with
  | 'x' => ' ' :: fixedDigits 16 (2 * style.size) value
  | 'o' =>
    let width := match style.size with
      | 1 => 3
      | 2 => 6
      | 4 => 11
      | _ => 22
    ' ' :: fixedDigits 8 width value
  | 'u' =>
    let width := match style.size with
      | 1 => 3
      | 2 => 5
      | 4 => 10
      | _ => 20
    ' ' :: pad width (ByteText.ofNat value)
  | 'd' =>
    let width := match style.size with
      | 1 => 4
      | 2 => 6
      | 4 => 11
      | _ => 20
    ' ' :: pad width (ByteText.ofInt signed)
  | 'a' => pad 4 (characterName true (group.headD '\x00'))
  | _ => pad 4 (characterName false (group.headD '\x00'))

def dumpStyle? (text : ByteText) : Option DumpStyle :=
  match text with
  | ['a'] => some { size := 1, letter := 'a' }
  | ['c'] => some { size := 1, letter := 'c' }
  | letter :: size =>
    if "doux".toList.contains letter then
      match String.ofList (size.filter fun c => c != 'z') with
      | "" | "4" | "I" => some { size := 4, letter }
      | "1" | "C" => some { size := 1, letter }
      | "2" | "S" => some { size := 2, letter }
      | "8" | "L" => some { size := 8, letter }
      | _ => none
    else none
  | [] => none

/-- The groups of a number of bytes. -/
def groupsOf {α : Type} (fuel size : Nat) (items : List α) : List (List α) :=
  match fuel with
  | 0 => []
  | fuel + 1 =>
    if items.isEmpty then [] else items.take size :: groupsOf fuel size (items.drop size)

/-- The styles that options ask for, one after the other. -/
def dumpStyles (given : Arguments) : Work (List DumpStyle) := do
  let mut styles : List DumpStyle := []
  for (letter, value) in given.options do
    match letter with
    | 't' =>
      match dumpStyle? value with
      | some style => styles := styles ++ [style]
      | none => Work.stop 1 ["invalid type string ".toList, quotedName value]
    | 'b' => styles := styles ++ [{ size := 1, letter := 'o' }]
    | 'c' => styles := styles ++ [{ size := 1, letter := 'c' }]
    | 'd' => styles := styles ++ [{ size := 2, letter := 'u' }]
    | 'o' => styles := styles ++ [{ size := 2, letter := 'o' }]
    | 'x' => styles := styles ++ [{ size := 2, letter := 'x' }]
    | 's' => styles := styles ++ [{ size := 2, letter := 'd' }]
    | 'i' => styles := styles ++ [{ size := 4, letter := 'd' }]
    | _ => pure ()
  return if styles.isEmpty then [{ size := 2, letter := 'o' }] else styles

/-- How a place is told in front of its row. -/
def dumpAddress (given : Arguments) (position : Nat) : ByteText :=
  match given.value? 'A' with
  | some ['n'] => []
  | some ['d'] => fixedDigits 10 7 position
  | some ['x'] => fixedDigits 16 6 position
  | _ => fixedDigits 8 7 position

/-- The blanks in front of each group of a style. The widest group of all styles sets them. -/
def dumpDistance (styles : List DumpStyle) (style : DumpStyle) : Nat :=
  let width (style : DumpStyle) := (dumpGroup style (List.replicate style.size '\x00')).length
  (styles.map fun style => width style / style.size).foldl max 1 * style.size - width style

/-- Print a row of bytes in each style, with its place in front of the first one. -/
def dumpRow (styles : List DumpStyle) (address row : ByteText) : Work Unit := do
  for (style, j) in styles.zipIdx do
    let label := if j = 0 then address else List.replicate address.length ' '
    let cells := (groupsOf (row.length + 1) style.size row).flatMap fun group =>
      List.replicate (dumpDistance styles style) ' ' ++ dumpGroup style group
    Work.printLine (label ++ cells)

/-- Print rows of bytes. A row like the one before it is left out, unless all are asked for. -/
def dumpRows (given : Arguments) (styles : List DumpStyle) (start width : Nat) (text : ByteText) :
    Work Unit := do
  let mut before : ByteText := []
  let mut starred := false
  for (row, i) in (groupsOf (text.length + 1) width text).zipIdx do
    if i ≠ 0 && row = before && row.length = width && !given.has 'v' then
      if !starred then Work.print "*\n".toList
      starred := true
    else
      starred := false
      dumpRow styles (dumpAddress given (start + i * width)) row
    before := row

/-- Prints bytes by their numbers. -/
def od : Utility := fun arguments => do
  let spec : UtilityOptions :=
    { flags := "bcdoxsiv", valued := "AtNjw"
      long := [("address-radix", 'A'), ("format", 't'), ("read-bytes", 'N'), ("skip-bytes", 'j'),
        ("output-duplicates", 'v'), ("width", 'w')]
      name := "od" }
  let given ← spec.read arguments
  let styles ← dumpStyles given
  let (texts, status) ← Work.readAll given.operands Work.plainComplaint
  let start := ((given.value? 'j').bind count?).getD 0
  let text := (texts.map Prod.snd).flatten.drop start
  let text := match (given.value? 'N').bind count? with
    | some limit => text.take limit
    | none => text
  dumpRows given styles start (max 1 (((given.value? 'w').bind Text.decimal?).getD 16)) text
  let last := dumpAddress given (start + text.length)
  if !last.isEmpty then Work.printLine last
  return status

/-- The alphabet of texts that stand for bytes. -/
def alphabet : Array Char :=
  "ABCDEFGHIJKLMNOPQRSTUVWXYZabcdefghijklmnopqrstuvwxyz0123456789+/".toList.toArray

/-- Bytes as a text of the alphabet. -/
def encode64 : ByteText → ByteText
  | a :: b :: c :: rest =>
    let value := a.toNat * 65536 + b.toNat * 256 + c.toNat
    [alphabet[value / 262144]!, alphabet[value / 4096 % 64]!, alphabet[value / 64 % 64]!,
     alphabet[value % 64]!] ++ encode64 rest
  | [a, b] =>
    let value := a.toNat * 65536 + b.toNat * 256
    [alphabet[value / 262144]!, alphabet[value / 4096 % 64]!, alphabet[value / 64 % 64]!, '=']
  | [a] =>
    let value := a.toNat * 65536
    [alphabet[value / 262144]!, alphabet[value / 4096 % 64]!, '=', '=']
  | [] => []

/-- The bytes of a text of the alphabet, and whether it is one. -/
def decode64 : ByteText → ByteText × Bool
  | [] => ([], true)
  | a :: b :: c :: d :: rest =>
    match alphabet.idxOf? a, alphabet.idxOf? b with
    | some a, some b =>
      let first := Char.ofNat (a * 4 + b / 16)
      match alphabet.idxOf? c, alphabet.idxOf? d with
      | some c, some d =>
        let (after, ok) := decode64 rest
        (first :: Char.ofNat (b % 16 * 16 + c / 4) :: Char.ofNat (c % 4 * 64 + d) :: after, ok)
      | some c, none => ([first, Char.ofNat (b % 16 * 16 + c / 4)], d = '=' && rest.isEmpty)
      | none, _ => ([first], c = '=' && d = '=' && rest.isEmpty)
    | _, _ => ([], false)
  | _ => ([], false)

def base64 : Utility := fun arguments => do
  let spec : UtilityOptions :=
    { flags := "di", valued := "w", long := [("decode", 'd'), ("wrap", 'w'), ("ignore-garbage", 'i')]
      name := "base64" }
  let given ← spec.read arguments
  let (texts, status) ← Work.readAll (given.operands.take 1) Work.plainComplaint
  if status ≠ 0 then throw 1
  let text := (texts.map Prod.snd).flatten
  if given.has 'd' then
    let cleaned := text.filter fun c => c != '\n' && (!given.has 'i' || alphabet.contains c || c == '=')
    let (bytes, ok) := decode64 cleaned
    Work.print bytes
    if !ok then Work.stop 1 ["invalid input".toList]
  else
    let width := ((given.value? 'w').bind Text.decimal?).getD 76
    let encoded := encode64 text
    if width = 0 then Work.print encoded
    else Work.print (ByteText.unlines (groupsOf (encoded.length + 1) width encoded))
  return 0

def digestBy (name : String) (digest : ByteArray → ByteText) : Utility := fun arguments => do
  let spec : UtilityOptions := { flags := "btz", name }
  let given ← spec.read arguments
  let names := if given.operands.isEmpty then [['-']] else given.operands
  let (texts, status) ← Work.readAll names Work.plainComplaint
  for (name, text) in texts do
    Work.printLine (digest (ByteText.toBytes text) ++ ' ' :: ' ' :: name)
  return status

def hexText (bytes : List UInt8) : ByteText :=
  bytes.flatMap fun byte => fixedDigits 16 2 byte.toNat

/-- A text padded to whole blocks of 64 bytes, with its length in bits at the end. -/
def paddedBlocks (bytes : ByteArray) (lengthBytes : List UInt8) : List (List UInt8) :=
  let gap := (119 - bytes.size % 64) % 64
  let all := bytes.toList ++ 0x80 :: List.replicate gap 0 ++ lengthBytes
  groupsOf (all.length + 1) 64 all

/-- The bytes of a number, lowest first. -/
def lowFirst (count value : Nat) : List UInt8 :=
  (List.range count).map fun i => UInt8.ofNat (value / 256 ^ i)

def wordOf (bytes : List UInt8) : UInt32 :=
  bytes.foldr (fun byte word => word * 256 + byte.toUInt32) 0

def turn (word : UInt32) (bits : Nat) : UInt32 :=
  word <<< UInt32.ofNat bits ||| word >>> UInt32.ofNat (32 - bits)

/-- The constants of the rounds: the first bits of the sines of the numbers. -/
def sineWords : Array UInt32 :=
  (List.range 64).toArray.map fun i =>
    (Float.floor (Float.abs (Float.sin (Float.ofNat (i + 1))) * 4294967296.0)).toUInt32

/-- How far words are turned in the rounds. -/
def turns : Array Nat :=
  (([[7, 12, 17, 22], [5, 9, 14, 20], [4, 11, 16, 23], [6, 10, 15, 21]] : List (List Nat)).map fun four =>
    (List.replicate 4 four).flatten).flatten.toArray

/-- The state of a digest of four words after a block. -/
def fourWordBlock (state : UInt32 × UInt32 × UInt32 × UInt32) (block : List UInt8) :
    UInt32 × UInt32 × UInt32 × UInt32 :=
  let words := ((groupsOf 17 4 block).map wordOf).toArray
  let step (state : UInt32 × UInt32 × UInt32 × UInt32) (i : Nat) : UInt32 × UInt32 × UInt32 × UInt32 :=
    let (a, b, c, d) := state
    let (mixed, index) :=
      if i < 16 then ((b &&& c) ||| (~~~b &&& d), i)
      else if i < 32 then ((d &&& b) ||| (~~~d &&& c), (5 * i + 1) % 16)
      else if i < 48 then (b ^^^ c ^^^ d, (3 * i + 5) % 16)
      else (c ^^^ (b ||| ~~~d), 7 * i % 16)
    (d, b + turn (a + mixed + sineWords[i]! + words[index]!) turns[i]!, b, c)
  let (a, b, c, d) := (List.range 64).foldl step state
  (state.1 + a, state.2.1 + b, state.2.2.1 + c, state.2.2.2 + d)

def fourWordDigest (bytes : ByteArray) : ByteText :=
  let blocks := paddedBlocks bytes (lowFirst 8 (8 * bytes.size))
  let (a, b, c, d) := blocks.foldl fourWordBlock (0x67452301, 0xefcdab89, 0x98badcfe, 0x10325476)
  hexText ([a, b, c, d].flatMap fun word => lowFirst 4 word.toNat)

/-- The words of a block, highest byte first, and the words made of them. -/
def spreadWords (block : List UInt8) : Array UInt32 :=
  let words := ((groupsOf 17 4 block).map fun bytes => wordOf bytes.reverse).toArray
  (List.range 64).foldl (fun (words : Array UInt32) i =>
    let t := i + 16
    words.push (turn (words[t - 3]! ^^^ words[t - 8]! ^^^ words[t - 14]! ^^^ words[t - 16]!) 1)) words

/-- The state of a digest of five words after a block. -/
def fiveWordBlock (state : UInt32 × UInt32 × UInt32 × UInt32 × UInt32) (block : List UInt8) :
    UInt32 × UInt32 × UInt32 × UInt32 × UInt32 :=
  let words := spreadWords block
  let step (state : UInt32 × UInt32 × UInt32 × UInt32 × UInt32) (i : Nat) :
      UInt32 × UInt32 × UInt32 × UInt32 × UInt32 :=
    let (a, b, c, d, e) := state
    let (mixed, constant) : UInt32 × UInt32 :=
      if i < 20 then ((b &&& c) ||| (~~~b &&& d), 0x5a827999)
      else if i < 40 then (b ^^^ c ^^^ d, 0x6ed9eba1)
      else if i < 60 then ((b &&& c) ||| (b &&& d) ||| (c &&& d), 0x8f1bbcdc)
      else (b ^^^ c ^^^ d, 0xca62c1d6)
    (turn a 5 + mixed + e + constant + words[i]!, a, turn b 30, c, d)
  let (a, b, c, d, e) := (List.range 80).foldl step state
  (state.1 + a, state.2.1 + b, state.2.2.1 + c, state.2.2.2.1 + d, state.2.2.2.2 + e)

def fiveWordDigest (bytes : ByteArray) : ByteText :=
  let blocks := paddedBlocks bytes (lowFirst 8 (8 * bytes.size)).reverse
  let (a, b, c, d, e) :=
    blocks.foldl fiveWordBlock (0x67452301, 0xefcdab89, 0x98badcfe, 0x10325476, 0xc3d2e1f0)
  hexText ([a, b, c, d, e].flatMap fun word => (lowFirst 4 word.toNat).reverse)

def checksumStep (sum : UInt32) (byte : UInt8) : UInt32 :=
  let start := sum ^^^ (byte.toUInt32 <<< 24)
  (List.range 8).foldl (fun (sum : UInt32) _ =>
    if sum &&& 0x80000000 = 0 then sum <<< 1 else (sum <<< 1) ^^^ 0x04c11db7) start

/-- Prints checksums and sizes of files. -/
def cksum : Utility := fun arguments => do
  let given ← ({ name := "cksum" } : UtilityOptions).read arguments
  let (texts, status) ← Work.readAll given.operands Work.plainComplaint
  for (name, text) in texts do
    let lengthBytes := (lowFirst 8 text.length).reverse.dropWhile (· == 0)
    let sum := ((ByteText.toBytes text).toList ++ lengthBytes.reverse).foldl checksumStep 0
    let label := if given.operands.isEmpty then [] else ' ' :: name
    Work.printLine (ByteText.ofNat (sum ^^^ 0xffffffff).toNat ++ ' ' :: ByteText.ofNat text.length ++ label)
  return status

end Utility

end Stencil
