import Mathlib.Data.List.Nodup
import PigweedExperimental.Foundation.Tokens

namespace PigweedExperimental.Tls.TrustStore

/-! # The trust store

The generator writes a header with an array of bytes for each certificate, and one more
array that names them. The compiler reads it.
-/

/-- What the generator uses of the file system and of OpenSSL. -/
structure Tools (X509 : Type) where
  read : List Char → Option (List UInt8)
  loadPem : List UInt8 → Option X509
  loadAsn1 : List UInt8 → Option X509
  dumpAsn1 : X509 → List UInt8

/-- `load_certificate_file`; an exception ends the generator. -/
def loadCertificateFile (tools : Tools X509) (file : List Char) : Option (List UInt8) := do
  let data ← tools.read file
  let x509 ← (tools.loadPem data).orElse fun _ => tools.loadAsn1 data
  return tools.dumpAsn1 x509

/-- One of the strings that are joined with blanks. -/
def element (b : UInt8) : List Char := "0x".toList ++ Nat.toDigits 16 b.toNat ++ [',']

/-- `generate_c_array_declaration` -/
def generateCArrayDeclaration (data : List UInt8) (varName : List Char) : List Char :=
  "const unsigned char ".toList ++ varName ++ "[] = \x7b".toList ++
    [' '].intercalate (data.map element) ++ "\x7d;".toList

/-- `var_name` -/
def varName (i : Nat) : List Char := "kRootCACert_".toList ++ Nat.toDigits 10 i

/-- `LICENSE_HEADER`, by the text of its comments. -/
def licenseHeader (license : List (List Char)) : List Char :=
  license.flatMap (fun text => "//".toList ++ text ++ ['\n']) ++ ['\n']

/-- `ROOT_CERT_API_FUNC` -/
def rootCertApiFunc : List Char :=
  ("\npw::span<const pw::span<const unsigned char>> GetBuiltInRootCert() \x7b\n" ++
    "    return pw::span\x7bkRootCerts\x7d;\n" ++ "\x7d\n").toList

/-- The loop over the certificates, with what it has written and collected. -/
def addCerts (tools : Tools X509) (i : Nat) :
    (certs : List (List Char)) → (header certCollectionArray : List Char) →
      Option (List Char × List Char)
  | [], header, certCollectionArray => some (header, certCollectionArray)
  | cert :: certs, header, certCollectionArray => do
      let data ← loadCertificateFile tools cert
      addCerts tools (i + 1) certs
        (header ++ "// Generated from\n".toList ++ ("// ".toList ++ cert ++ ['\n']) ++
          generateCArrayDeclaration data (varName i) ++ "\n\n".toList)
        (certCollectionArray ++ ("pw::span\x7b".toList ++ varName i ++ "\x7d,".toList))

/-- `main`, up to the formatting of the file. -/
def main (tools : Tools X509) (license : List (List Char)) (certs : List (List Char)) :
    Option (List Char) := do
  let (header, certCollectionArray) ← addCerts tools 0 certs
    (licenseHeader license ++ "#include \"pw_span/span.h\"\n\n".toList ++
      "namespace \x7b\n\n".toList)
    "const pw::span<const unsigned char>kRootCerts[] = \x7b".toList
  return header ++ certCollectionArray ++ "\x7d;".toList ++ "\n\n".toList ++
    "\x7d\n\n".toList ++ rootCertApiFunc ++ "\n\n".toList

/-- A hexadecimal literal for an `unsigned char`. -/
def readByte : List Char → Option UInt8
  | '0' :: 'x' :: digits => do
      let value ← readNumeral 16 ',' (digits ++ [','])
      if value < 256 then some (UInt8.ofNat value) else none
  | _ => none

def comma : List Char := [',']

def closing : List Char := ['}']

def semicolon : List Char := [';']

/-- Literals, each with its comma, up to the closing brace. -/
def readBytes : List (List Char) → Option (List UInt8 × List (List Char))
  | [] => none
  | [token] => if token = closing then some ([], []) else none
  | token :: separator :: tokens =>
      if token = closing then
        some ([], separator :: tokens)
      else if separator = comma then do
        let byte ← readByte token
        let (bytes, rest) ← readBytes tokens
        return (byte :: bytes, rest)
      else
        none

abbrev Arrays := List (List Char × List UInt8)

def spanOpening : List Char := "pw::span\x7b".toList

def spanClosing : List Char := "\x7d,".toList

/-- Spans of declared arrays, up to the closing brace. -/
def readSpans (arrays : Arrays) :
    Nat → List (List Char) → Option (List (List UInt8) × List (List Char))
  | 0, _ => none
  | fuel + 1, tokens =>
      match expect [closing] tokens with
      | some rest => some ([], rest)
      | none => do
          match ← expect (tokensOf [] spanOpening) tokens with
          | [] => none
          | name :: rest => do
              let bytes ← arrays.lookup name
              let rest ← expect (tokensOf [] spanClosing) rest
              let (spans, rest) ← readSpans arrays fuel rest
              return (bytes :: spans, rest)

def arrayOpening : List Char := "const unsigned char ".toList

def arrayMiddle : List Char := "[] = \x7b".toList

def arrayEnd : List Char := "\x7d;".toList

def collectionOpening : List Char :=
  "const pw::span<const unsigned char>kRootCerts[] = \x7b".toList

/-- The declarations up to the array of spans, and the function that returns it. An array
without elements cannot be declared, and no name twice. -/
def readDeclarations : Nat → Arrays → List (List Char) → Option (List (List UInt8))
  | 0, _, _ => none
  | fuel + 1, arrays, tokens =>
      match expect (tokensOf [] arrayOpening) tokens with
      | some [] => none
      | some (name :: rest) => do
          let rest ← expect (tokensOf [] arrayMiddle) rest
          let (bytes, rest) ← readBytes rest
          let rest ← expect [semicolon] rest
          if bytes = [] ∨ (arrays.lookup name).isSome then
            none
          else
            readDeclarations fuel ((name, bytes) :: arrays) rest
      | none => do
          let rest ← expect (tokensOf [] collectionOpening) tokens
          let (spans, rest) ← readSpans arrays rest.length rest
          let api := PigweedExperimental.tokens rootCertApiFunc
          let rest ← expect ([semicolon, closing] ++ api) rest
          if spans = [] ∨ rest ≠ [] then none else some spans

/-- `GetBuiltInRootCert()` of a header. -/
def getBuiltInRootCert (header : List Char) : Option (List (List UInt8)) := do
  let rest ← expect (tokensOf [] "namespace \x7b".toList) (tokens header)
  readDeclarations rest.length [] rest

section Bytes

/-- An element without its comma. -/
def hexLiteral (b : UInt8) : List Char := "0x".toList ++ Nat.toDigits 16 b.toNat

theorem readByte_hexLiteral (b : UInt8) : readByte (hexLiteral b) = some b := by
  have read := @readNumeral_toDigits 16 ',' (by decide) (by decide) rfl b.toNat
  change (readNumeral 16 ',' (Nat.toDigits 16 b.toNat ++ [','])).bind _ = some b
  rw [read, Option.bind_some, if_pos (UInt8.toNat_lt b), UInt8.ofNat_toNat]

theorem isWordChar_hexLiteral (b : UInt8) : ∀ char ∈ hexLiteral b, isWordChar char := by
  rw [hexLiteral, List.forall_mem_append]
  exact ⟨by simp [isWordChar], isWordChar_of_mem_toDigits (by decide) (by decide) b.toNat⟩

def elementTokens (data : List UInt8) : List (List Char) :=
  data.flatMap fun b => [hexLiteral b, comma]

theorem tokensOf_element (b : UInt8) (rest : List Char) :
    tokensOf [] (element b ++ rest) = hexLiteral b :: [','] :: tokensOf [] rest := by
  have notEmpty : hexLiteral b ≠ [] := List.cons_ne_nil _ _
  have isElement : element b ++ rest = hexLiteral b ++ ',' :: rest := by
    rw [element, hexLiteral, List.append_assoc _ [',']]
    rfl
  rw [isElement, tokensOf_letters (isWordChar_hexLiteral b), List.nil_append,
    tokensOf_other (by decide), if_neg (by decide), if_neg (by decide), ended, if_neg notEmpty]
  rfl

theorem tokensOf_elements (data : List UInt8) (rest : List Char) :
    tokensOf [] ([' '].intercalate (data.map element) ++ rest) =
      elementTokens data ++ tokensOf [] rest := by
  induction data with
  | nil => rfl
  | cons b data induction =>
      cases data with
      | nil =>
          rw [List.map_singleton, List.intercalate_singleton, tokensOf_element]
          rfl
      | cons next data =>
          rw [List.map_cons, List.map_cons, List.intercalate_cons_cons, List.append_assoc,
            List.append_assoc, tokensOf_element, ← List.map_cons, List.singleton_append,
            tokensOf_other (by decide), if_neg (by decide), if_pos rfl, ended, if_pos rfl,
            List.nil_append, induction]
          rfl

/-- What is written as an array is read as its bytes. -/
theorem readBytes_elements (data : List UInt8) (rest : List (List Char)) :
    readBytes (elementTokens data ++ closing :: rest) = some (data, rest) := by
  induction data with
  | nil => cases rest <;> rfl
  | cons b data induction =>
      have notClosing : hexLiteral b ≠ closing := by
        intro same
        cases same
      rw [elementTokens, List.flatMap_cons, List.append_assoc, List.cons_append, List.cons_append,
        List.nil_append, readBytes, if_neg notClosing, if_pos rfl, readByte_hexLiteral,
        ← elementTokens, induction]
      rfl

end Bytes

section Names

theorem isWordChar_varName (i : Nat) : ∀ char ∈ varName i, isWordChar char := by
  have prefixed : ∀ char ∈ "kRootCACert_".toList, isWordChar char := by
    simp [isWordChar]
  unfold varName
  rw [List.forall_mem_append]
  exact ⟨prefixed, isWordChar_of_mem_toDigits (by decide) (by decide) i⟩

theorem varName_ne_nil (i : Nat) : varName i ≠ [] := by
  unfold varName
  simp

theorem varName_injective {i j : Nat} (same : varName i = varName j) : i = j := by
  have digits := List.append_cancel_left same
  have read (number : Nat) := @readNumeral_toDigits 10 ',' (by decide) (by decide) rfl number
  have readFirst := read i
  rw [digits, read j] at readFirst
  exact (Option.some.inj readFirst).symm

/-- The arrays with their names, from one of the numbers on. -/
def named (i : Nat) : List (List UInt8) → Arrays
  | [] => []
  | data :: others => (varName i, data) :: named (i + 1) others

theorem named_data (ders : List (List UInt8)) (i : Nat) :
    (named i ders).map Prod.snd = ders := by
  induction ders generalizing i with
  | nil => rfl
  | cons data ders induction => rw [named, List.map_cons, induction]

theorem length_named (ders : List (List UInt8)) (i : Nat) :
    (named i ders).length = ders.length := by
  rw [← List.length_map Prod.snd, named_data]

theorem named_after {ders : List (List UInt8)} {i : Nat} {entry : List Char × List UInt8}
    (isNamed : entry ∈ named i ders) : ∃ number ≥ i, entry.1 = varName number := by
  induction ders generalizing i with
  | nil => cases isNamed
  | cons data ders induction =>
      rcases List.mem_cons.mp isNamed with rfl | later
      · exact ⟨i, Nat.le_refl i, rfl⟩
      · rcases induction later with ⟨number, atLeast, isName⟩
        exact ⟨number, by omega, isName⟩

theorem named_nodup (ders : List (List UInt8)) (i : Nat) :
    ((named i ders).map Prod.fst).Nodup := by
  induction ders generalizing i with
  | nil => exact List.nodup_nil
  | cons data ders induction =>
      have isNew : varName i ∉ (named (i + 1) ders).map Prod.fst := by
        intro again
        rcases List.mem_map.mp again with ⟨entry, isEntry, sameName⟩
        rcases named_after isEntry with ⟨number, atLeast, isName⟩
        have same := varName_injective (sameName.symm.trans isName)
        omega
      rw [named, List.map_cons]
      exact List.nodup_cons.mpr ⟨isNew, induction (i + 1)⟩

theorem lookup_of_nodup {arrays : Arrays} (nodup : (arrays.map Prod.fst).Nodup)
    {entry : List Char × List UInt8} (isEntry : entry ∈ arrays) :
    arrays.lookup entry.1 = some entry.2 := by
  induction arrays with
  | nil => cases isEntry
  | cons first arrays induction =>
      rw [List.map_cons, List.nodup_cons] at nodup
      rcases List.mem_cons.mp isEntry with rfl | later
      · exact List.lookup_cons_self
      · have other : entry.1 ≠ first.1 := by
          intro same
          exact nodup.1 (same ▸ List.mem_map_of_mem later)
        rw [List.lookup_cons, beq_false_of_ne other]
        exact induction nodup.2 later

theorem lookup_eq_none {arrays : Arrays} {name : List Char}
    (notDeclared : name ∉ arrays.map Prod.fst) : arrays.lookup name = none := by
  rw [List.lookup_eq_none_iff]
  intro entry isEntry
  rw [bne_iff_ne]
  intro same
  exact notDeclared (same ▸ List.mem_map_of_mem isEntry)

end Names

section Spans

theorem isSegment_spanOpening : IsSegment spanOpening := by
  unfold spanOpening
  simp [IsSegment, isWordChar]

theorem isSegment_spanClosing : IsSegment spanClosing := by
  unfold spanClosing
  simp [IsSegment, isWordChar]

theorem isSegment_arrayOpening : IsSegment arrayOpening := by
  unfold arrayOpening
  simp [IsSegment, isWordChar]

theorem isSegment_arrayMiddle : IsSegment arrayMiddle := by
  unfold arrayMiddle
  simp [IsSegment, isWordChar]

theorem isSegment_collectionOpening : IsSegment collectionOpening := by
  unfold collectionOpening
  simp [IsSegment, isWordChar]

/-- The tokens of a span in the last array. -/
def spanTokens (name : List Char) : List (List Char) :=
  tokensOf [] spanOpening ++ name :: tokensOf [] spanClosing

theorem tokensOf_varName {i : Nat} {char : Char} {rest : List Char} (noSlash : char ≠ '/')
    (ends : isWordChar char = false) :
    tokensOf [] (varName i ++ char :: rest) = varName i :: tokensOf [] (char :: rest) := by
  rw [tokensOf_letters (isWordChar_varName i), List.nil_append,
    tokensOf_ended (varName_ne_nil i) noSlash ends]

theorem tokensOf_span (i : Nat) (rest : List Char) :
    tokensOf [] (spanOpening ++ varName i ++ spanClosing ++ rest) =
      spanTokens (varName i) ++ tokensOf [] rest := by
  have begins : spanClosing ++ rest = '}' :: ([','] ++ rest) := rfl
  rw [List.append_assoc, List.append_assoc, tokensOf_segment isSegment_spanOpening,
    begins, tokensOf_varName (by decide) (by decide), ← begins,
    tokensOf_segment isSegment_spanClosing, spanTokens, List.append_assoc, List.cons_append]

theorem readSpans_named {arrays entries : Arrays} {fuel : Nat} (enough : entries.length < fuel)
    (declared : ∀ entry ∈ entries, arrays.lookup entry.1 = some entry.2)
    (rest : List (List Char)) :
    readSpans arrays fuel (entries.flatMap (fun entry => spanTokens entry.1) ++ closing :: rest) =
      some (entries.map Prod.snd, rest) := by
  induction entries generalizing fuel with
  | nil =>
      rcases Nat.exists_eq_succ_of_ne_zero (Nat.ne_of_gt enough) with ⟨fuel, rfl⟩
      rw [List.flatMap_nil, List.nil_append, readSpans]
      rfl
  | cons entry entries induction =>
      rw [List.forall_mem_cons] at declared
      rw [List.length_cons] at enough
      rcases Nat.exists_eq_succ_of_ne_zero (Nat.ne_of_gt (Nat.zero_lt_of_lt enough)) with
        ⟨fuel, rfl⟩
      have later := induction (Nat.lt_of_succ_lt_succ enough) declared.2
      have notClosing (others : List (List Char)) :
          expect [closing] (spanTokens entry.1 ++ others) = none := rfl
      rw [List.flatMap_cons, List.append_assoc, readSpans, notClosing, spanTokens,
        List.append_assoc, List.cons_append]
      simp [expect_append, declared.1, later]

end Spans

section Declarations

/-- The tokens of a declaration. -/
def declarationTokens (entry : List Char × List UInt8) : List (List Char) :=
  tokensOf [] arrayOpening ++ entry.1 ::
    (tokensOf [] arrayMiddle ++ (elementTokens entry.2 ++ closing :: [semicolon]))

/-- The tokens after the declarations. -/
def collectionTokens (entries : Arrays) : List (List Char) :=
  tokensOf [] collectionOpening ++ (entries.flatMap (fun entry => spanTokens entry.1) ++
    closing :: semicolon :: closing :: PigweedExperimental.tokens rootCertApiFunc)

theorem expect_arrayOpening (entries : Arrays) :
    expect (tokensOf [] arrayOpening) (collectionTokens entries) = none := by
  have opening : tokensOf [] arrayOpening = ["const".toList, "unsigned".toList, "char".toList] := by
    unfold arrayOpening
    simp [tokensOf, isWordChar, ended]
  have collection : (tokensOf [] collectionOpening).take 2 = ["const".toList, "pw".toList] := by
    unfold collectionOpening
    simp [tokensOf, isWordChar, ended]
  rw [opening, collectionTokens, ← List.take_append_drop 2 (tokensOf [] collectionOpening),
    collection]
  simp [expect]

theorem length_le_flatMap {tokensOfEntry : List Char × List UInt8 → List (List Char)}
    (notEmpty : ∀ entry, tokensOfEntry entry ≠ []) (entries : Arrays) :
    entries.length ≤ (entries.flatMap tokensOfEntry).length := by
  induction entries with
  | nil => simp
  | cons entry entries induction =>
      have positive := List.length_pos_iff.mpr (notEmpty entry)
      rw [List.flatMap_cons, List.length_append, List.length_cons]
      omega

theorem spanTokens_ne_nil (entry : List Char × List UInt8) : spanTokens entry.1 ≠ [] :=
  List.append_ne_nil_of_right_ne_nil _ (List.cons_ne_nil _ _)

/-- The array of spans, once every array it names is declared. -/
theorem readDeclarations_collection {arrays entries : Arrays} {fuel : Nat} (enough : 0 < fuel)
    (declared : ∀ entry ∈ entries, arrays.lookup entry.1 = some entry.2) :
    readDeclarations fuel arrays (collectionTokens entries) =
      if entries = [] then none else some (entries.map Prod.snd) := by
  rcases Nat.exists_eq_succ_of_ne_zero (Nat.ne_of_gt enough) with ⟨fuel, rfl⟩
  have isOpening := expect_append (tokensOf [] collectionOpening)
    (entries.flatMap (fun entry => spanTokens entry.1) ++
      closing :: semicolon :: closing :: PigweedExperimental.tokens rootCertApiFunc)
  rw [readDeclarations, expect_arrayOpening, collectionTokens, isOpening]
  have spans := length_le_flatMap spanTokens_ne_nil entries
  have enoughFuel : entries.length <
      (entries.flatMap (fun entry => spanTokens entry.1) ++
        closing :: semicolon :: closing :: PigweedExperimental.tokens rootCertApiFunc).length := by
    rw [List.length_append, List.length_cons]
    omega
  have ends := expect_append
    (semicolon :: closing :: PigweedExperimental.tokens rootCertApiFunc) []
  rw [List.append_nil] at ends
  simp only [Option.bind_eq_bind, Option.bind_some, readSpans_named enoughFuel declared,
    List.cons_append, List.nil_append, ends]
  simp

theorem readDeclarations_declaration {arrays : Arrays} {entry : List Char × List UInt8}
    (isNew : arrays.lookup entry.1 = none) (fuel : Nat) (rest : List (List Char)) :
    readDeclarations (fuel + 1) arrays (declarationTokens entry ++ rest) =
      if entry.2 = [] then none else readDeclarations fuel (entry :: arrays) rest := by
  have ends : expect [semicolon] (semicolon :: rest) = some rest := expect_append [semicolon] rest
  rw [declarationTokens, readDeclarations]
  simp only [List.append_assoc, List.cons_append, List.nil_append, expect_append,
    Option.bind_eq_bind, Option.bind_some, readBytes_elements, ends, isNew, Option.isSome_none,
    Bool.false_eq_true, or_false]

/-- What is written is read, unless there is an array without elements. -/
theorem readDeclarations_entries {arrays entries : Arrays} {fuel : Nat}
    (enough : entries.length < fuel)
    (nodup : ((arrays.reverse ++ entries).map Prod.fst).Nodup) :
    readDeclarations fuel arrays
        (entries.flatMap declarationTokens ++ collectionTokens (arrays.reverse ++ entries)) =
      if arrays.reverse ++ entries ≠ [] ∧ ∀ entry ∈ entries, entry.2 ≠ [] then
        some ((arrays.reverse ++ entries).map Prod.snd)
      else
        none := by
  induction entries generalizing arrays fuel with
  | nil =>
      rw [List.append_nil, List.map_reverse, List.nodup_reverse] at nodup
      have declared (entry : _ × _) (isEntry : entry ∈ arrays.reverse ++ []) :
          arrays.lookup entry.1 = some entry.2 := by
        rw [List.append_nil, List.mem_reverse] at isEntry
        exact lookup_of_nodup nodup isEntry
      rw [List.flatMap_nil, List.nil_append, readDeclarations_collection enough declared]
      simp
  | cons entry entries induction =>
      rcases Nat.exists_eq_succ_of_ne_zero (Nat.ne_of_gt (Nat.zero_lt_of_lt enough)) with
        ⟨fuel, rfl⟩
      have moved : arrays.reverse ++ entry :: entries = (entry :: arrays).reverse ++ entries := by
        simp
      have isNew : arrays.lookup entry.1 = none := by
        apply lookup_eq_none
        rw [List.map_append, List.map_cons, List.nodup_append] at nodup
        intro declared
        rw [List.map_reverse] at nodup
        exact nodup.2.2 _ (List.mem_reverse.mpr declared) _ List.mem_cons_self rfl
      rw [moved] at nodup ⊢
      rw [List.flatMap_cons, List.append_assoc, readDeclarations_declaration isNew,
        induction (Nat.lt_of_succ_lt_succ enough) nodup]
      by_cases isEmpty : entry.2 = []
      · rw [if_pos isEmpty, if_neg]
        rintro ⟨-, noneEmpty⟩
        exact noneEmpty entry List.mem_cons_self isEmpty
      · simp [isEmpty, -Prod.forall]

end Declarations

section Text

/-- The lines for a certificate. -/
def certLines (i : Nat) (cert : List Char) (data : List UInt8) : List (List Char) :=
  ["// Generated from".toList, "// ".toList ++ cert, generateCArrayDeclaration data (varName i), []]

/-- The lines for the certificates, from one of the numbers on. -/
def allCertLines : Nat → List (List Char × List UInt8) → List (List Char)
  | _, [] => []
  | i, (cert, data) :: others => certLines i cert data ++ allCertLines (i + 1) others

def collection (entries : Arrays) : List Char :=
  entries.flatMap fun entry => spanOpening ++ entry.1 ++ spanClosing

theorem unlines_certLines (i : Nat) (cert : List Char) (data : List UInt8) :
    unlines (certLines i cert data) =
      "// Generated from\n".toList ++ ("// ".toList ++ cert ++ ['\n']) ++
        generateCArrayDeclaration data (varName i) ++ "\n\n".toList := by
  have title : "// Generated from\n".toList = "// Generated from".toList ++ ['\n'] := by
    simp
  have newlines : "\n\n".toList = ['\n'] ++ ['\n'] := by simp
  rw [title, newlines]
  unfold unlines certLines
  simp only [List.flatMap_cons, List.flatMap_nil, List.append_assoc, List.nil_append,
    List.append_nil]

theorem collection_cons (entry : List Char × List UInt8) (entries : Arrays) :
    collection (entry :: entries) =
      "pw::span\x7b".toList ++ entry.1 ++ "\x7d,".toList ++ collection entries :=
  List.flatMap_cons

theorem addCerts_eq (tools : Tools X509) (certs : List (List Char)) (i : Nat)
    (header certCollectionArray : List Char) :
    addCerts tools i certs header certCollectionArray =
      (certs.mapM (loadCertificateFile tools)).map fun ders =>
        (header ++ unlines (allCertLines i (certs.zip ders)),
          certCollectionArray ++ collection (named i ders)) := by
  induction certs generalizing i header certCollectionArray with
  | nil => simp [addCerts, unlines, allCertLines, collection, named]
  | cons cert certs induction =>
      rw [addCerts, List.mapM_cons]
      cases loadCertificateFile tools cert with
      | none => rfl
      | some data =>
          rw [Option.bind_eq_bind, Option.bind_some, induction]
          cases certs.mapM (loadCertificateFile tools) with
          | none => rfl
          | some ders =>
              simp only [Option.map_some, Option.bind_eq_bind, Option.bind_some, Option.pure_def,
                List.zip_cons_cons, allCertLines, named, unlines_append, unlines_certLines,
                collection_cons, List.append_assoc]

theorem unlines_licenseHeader (license : List (List Char)) :
    licenseHeader license = unlines (license.map ("//".toList ++ ·) ++ [[]]) := by
  rw [unlines_append, licenseHeader]
  unfold unlines
  rw [List.flatMap_map]
  rfl

/-- The lines of the function. -/
def apiLines : List (List Char) :=
  [[], "pw::span<const pw::span<const unsigned char>> GetBuiltInRootCert() \x7b".toList,
    "    return pw::span\x7bkRootCerts\x7d;".toList, "\x7d".toList]

theorem rootCertApiFunc_eq : rootCertApiFunc = unlines apiLines := by
  unfold rootCertApiFunc apiLines
  simp [unlines]

theorem isLine_apiLines : ∀ line ∈ apiLines, IsLine line := by
  unfold apiLines
  simp [IsLine]

/-- The lines after the array of spans. -/
def lastLines : List (List Char) := ["\x7d".toList, []] ++ apiLines ++ [[], []]

/-- The lines of the file. -/
def headerLines (license certs : List (List Char)) (ders : List (List UInt8)) :
    List (List Char) :=
  license.map ("//".toList ++ ·) ++ [[]] ++ ["#include \"pw_span/span.h\"".toList, []] ++
    ["namespace \x7b".toList, []] ++ allCertLines 0 (certs.zip ders) ++
    [collectionOpening ++ collection (named 0 ders) ++ arrayEnd, []] ++ lastLines

theorem main_eq (tools : Tools X509) (license certs : List (List Char)) :
    main tools license certs = (certs.mapM (loadCertificateFile tools)).map fun ders =>
      unlines (headerLines license certs ders) := by
  rw [main, addCerts_eq]
  cases certs.mapM (loadCertificateFile tools) with
  | none => rfl
  | some ders =>
      have includes : "#include \"pw_span/span.h\"\n\n".toList =
          unlines ["#include \"pw_span/span.h\"".toList, []] := by simp [unlines]
      have opens : "namespace \x7b\n\n".toList = unlines ["namespace \x7b".toList, []] := by
        simp [unlines]
      have closes : "\x7d\n\n".toList ++ rootCertApiFunc ++ "\n\n".toList =
          unlines lastLines := by
        rw [rootCertApiFunc_eq]
        unfold lastLines
        simp [unlines]
      have ends (line : List Char) : line ++ "\n\n".toList = unlines [line, []] := by
        simp [unlines]
      rw [Option.map_some, Option.map_some, Option.bind_eq_bind, Option.bind_some,
        Option.pure_def, unlines_licenseHeader, includes, opens, headerLines]
      simp only [unlines_append, ← closes, ← ends, List.append_assoc]
      rfl

theorem lineTokens_comment (text : List Char) : lineTokens ("//".toList ++ text) = [] := rfl

theorem isLine_comment {text : List Char} (isLine : IsLine text) :
    IsLine ("//".toList ++ text) := by
  cases text with
  | nil => decide
  | cons char text => exact isLine_append (by decide) isLine (List.cons_ne_nil char text)

theorem newline_notMem_elements (data : List UInt8) :
    '\n' ∉ [' '].intercalate (data.map element) := by
  have notElement (b : UInt8) : '\n' ∉ element b := by
    have isElement : element b = hexLiteral b ++ [','] := rfl
    simp [isElement, newline_notMem (isWordChar_hexLiteral b)]
  induction data with
  | nil => decide
  | cons b data induction =>
      cases data with
      | nil => simpa using notElement b
      | cons next data =>
          rw [List.map_cons, List.map_cons, List.intercalate_cons_cons, ← List.map_cons]
          simp only [List.mem_append, not_or]
          exact ⟨⟨notElement b, by decide⟩, induction⟩

theorem isLine_declaration (i : Nat) (data : List UInt8) :
    IsLine (generateCArrayDeclaration data (varName i)) := by
  change IsLine (arrayOpening ++ varName i ++ arrayMiddle ++
    [' '].intercalate (data.map element) ++ arrayEnd)
  apply isLine_append
  · simp only [List.mem_append, not_or]
    exact ⟨⟨⟨isSegment_arrayOpening.1, newline_notMem (isWordChar_varName i)⟩,
      isSegment_arrayMiddle.1⟩, newline_notMem_elements data⟩
  · decide
  · decide

theorem newline_notMem_collection (ders : List (List UInt8)) (i : Nat) :
    '\n' ∉ collection (named i ders) := by
  intro isIn
  rcases List.mem_flatMap.mp isIn with ⟨entry, isNamed, isIn⟩
  rcases named_after isNamed with ⟨number, -, isName⟩
  rw [isName] at isIn
  simp only [List.mem_append] at isIn
  rcases isIn with (isIn | isIn) | isIn
  · exact isSegment_spanOpening.1 isIn
  · exact newline_notMem (isWordChar_varName number) isIn
  · exact isSegment_spanClosing.1 isIn

theorem lineTokens_declaration (i : Nat) (data : List UInt8) :
    lineTokens (generateCArrayDeclaration data (varName i)) =
      declarationTokens (varName i, data) := by
  have begins (rest : List Char) : arrayMiddle ++ rest = '[' :: ("] = \x7b".toList ++ rest) := rfl
  change tokensOf [] (arrayOpening ++ varName i ++ arrayMiddle ++
    [' '].intercalate (data.map element) ++ arrayEnd) = _
  simp only [List.append_assoc]
  rw [tokensOf_segment isSegment_arrayOpening, begins, tokensOf_varName (by decide) (by decide),
    ← begins, tokensOf_segment isSegment_arrayMiddle, tokensOf_elements]
  rfl

theorem isLine_allCertLines {certs : List (List Char)} (arePaths : ∀ cert ∈ certs, IsLine cert)
    (ders : List (List UInt8)) (i : Nat) :
    ∀ line ∈ allCertLines i (certs.zip ders), IsLine line := by
  induction certs generalizing i ders with
  | nil =>
      intro line isIn
      cases isIn
  | cons cert certs induction =>
      rw [List.forall_mem_cons] at arePaths
      cases ders with
      | nil =>
          intro line isIn
          cases isIn
      | cons data ders =>
          have title : IsLine "// Generated from".toList := by simp [IsLine]
          have source : IsLine ("//".toList ++ ([' '] ++ cert)) := by
            cases cert with
            | nil => decide
            | cons char cert =>
                apply isLine_comment
                exact isLine_append (by decide) arePaths.1 (List.cons_ne_nil char cert)
          rw [List.zip_cons_cons, allCertLines, List.forall_mem_append]
          refine ⟨?_, induction arePaths.2 ders (i + 1)⟩
          simp only [certLines, List.forall_mem_cons]
          exact ⟨title, source, isLine_declaration i data, by decide, List.forall_mem_nil _⟩

theorem lineTokens_allCertLines {certs : List (List Char)} {ders : List (List UInt8)}
    (sameLength : certs.length = ders.length) (i : Nat) :
    (allCertLines i (certs.zip ders)).flatMap lineTokens =
      (named i ders).flatMap declarationTokens := by
  induction certs generalizing i ders with
  | nil =>
      rw [List.eq_nil_of_length_eq_zero sameLength.symm]
      rfl
  | cons cert certs induction =>
      cases ders with
      | nil => cases sameLength
      | cons data ders =>
          have ownTokens : (certLines i cert data).flatMap lineTokens =
              declarationTokens (varName i, data) := by
            rw [← lineTokens_declaration, ← List.append_nil (lineTokens _)]
            rfl
          rw [List.zip_cons_cons, allCertLines, named, List.flatMap_append, List.flatMap_cons,
            ownTokens, induction (Nat.succ.inj sameLength)]

theorem tokensOf_collection (ders : List (List UInt8)) (i : Nat) (rest : List Char) :
    tokensOf [] (collection (named i ders) ++ rest) =
      (named i ders).flatMap (fun entry => spanTokens entry.1) ++ tokensOf [] rest := by
  induction ders generalizing i with
  | nil => rfl
  | cons data ders induction =>
      have first : collection (named i (data :: ders)) ++ rest =
          spanOpening ++ varName i ++ spanClosing ++ (collection (named (i + 1) ders) ++ rest) :=
        List.append_assoc _ _ _
      rw [first, tokensOf_span, induction, named, List.flatMap_cons, List.append_assoc]

end Text

section Header

theorem length_of_mapM {items : List Item} {results : List Result} {body : Item → Option Result}
    (succeeds : items.mapM body = some results) : items.length = results.length := by
  induction items generalizing results with
  | nil =>
      cases succeeds
      rfl
  | cons item items induction =>
      simp only [List.mapM_cons, Option.bind_eq_bind, Option.pure_def, Option.bind_eq_some_iff,
        Option.some.injEq] at succeeds
      rcases succeeds with ⟨result, -, later, succeeds, rfl⟩
      rw [List.length_cons, List.length_cons, induction succeeds]

theorem isLine_headerLines {license certs : List (List Char)}
    (isLicense : ∀ text ∈ license, IsLine text) (arePaths : ∀ cert ∈ certs, IsLine cert)
    (ders : List (List UInt8)) : ∀ line ∈ headerLines license certs ders, IsLine line := by
  have licenseLines : ∀ line ∈ license.map ("//".toList ++ ·), IsLine line := by
    intro line isIn
    rcases List.mem_map.mp isIn with ⟨text, isText, rfl⟩
    exact isLine_comment (isLicense text isText)
  have collectionLine : IsLine (collectionOpening ++ collection (named 0 ders) ++ arrayEnd) := by
    apply isLine_append _ (by decide) (by decide)
    simp [isSegment_collectionOpening.1, newline_notMem_collection]
  have emptyLine : IsLine [] := by decide
  have includeLine : IsLine "#include \"pw_span/span.h\"".toList := by simp [IsLine]
  have namespaceLine : IsLine "namespace \x7b".toList := by simp [IsLine]
  have areLast : ∀ line ∈ lastLines, IsLine line := by
    unfold lastLines
    simp only [List.forall_mem_append]
    exact ⟨⟨by decide, isLine_apiLines⟩, by decide⟩
  simp only [headerLines, List.forall_mem_append]
  refine ⟨⟨⟨⟨⟨⟨licenseLines, ?_⟩, ?_⟩, ?_⟩, isLine_allCertLines arePaths ders 0⟩, ?_⟩, areLast⟩
  · simpa using emptyLine
  · simp only [List.forall_mem_cons]
    exact ⟨includeLine, emptyLine, List.forall_mem_nil _⟩
  · simp only [List.forall_mem_cons]
    exact ⟨namespaceLine, emptyLine, List.forall_mem_nil _⟩
  · simp only [List.forall_mem_cons]
    exact ⟨collectionLine, emptyLine, List.forall_mem_nil _⟩

theorem tokens_headerLines {license certs : List (List Char)} {ders : List (List UInt8)}
    (isLicense : ∀ text ∈ license, IsLine text) (arePaths : ∀ cert ∈ certs, IsLine cert)
    (sameLength : certs.length = ders.length) :
    PigweedExperimental.tokens (unlines (headerLines license certs ders)) =
      tokensOf [] "namespace \x7b".toList ++
        ((named 0 ders).flatMap declarationTokens ++ collectionTokens (named 0 ders)) := by
  have licenseTokens : (license.map ("//".toList ++ ·)).flatMap lineTokens = [] := by
    rw [List.flatMap_map, List.flatMap_eq_nil_iff]
    intro text _
    exact lineTokens_comment text
  have collectionLineTokens :
      lineTokens (collectionOpening ++ collection (named 0 ders) ++ arrayEnd) =
        tokensOf [] collectionOpening ++
          ((named 0 ders).flatMap (fun entry => spanTokens entry.1) ++ [closing, semicolon]) := by
    change tokensOf [] _ = _
    rw [List.append_assoc, tokensOf_segment isSegment_collectionOpening, tokensOf_collection]
    rfl
  have lastTokens : lastLines.flatMap lineTokens =
      closing :: PigweedExperimental.tokens rootCertApiFunc := by
    rw [rootCertApiFunc_eq, tokens_unlines isLine_apiLines]
    unfold lastLines
    rw [List.flatMap_append, List.flatMap_append]
    exact List.append_nil _
  have namespaceTokens :
      lineTokens "namespace \x7b".toList = tokensOf [] "namespace \x7b".toList :=
    if_neg (by simp)
  rw [tokens_unlines (isLine_headerLines isLicense arePaths ders), headerLines, collectionTokens]
  simp only [List.flatMap_append, licenseTokens, lineTokens_allCertLines sameLength, lastTokens,
    List.flatMap_cons, List.flatMap_nil, collectionLineTokens, namespaceTokens]
  simp only [List.append_assoc, List.append_nil, List.nil_append, List.cons_append]
  rfl

/-- The header gives the certificates that were loaded, in their order. It is not accepted
without a certificate, and not with an empty one. -/
theorem getBuiltInRootCert_main (tools : Tools X509) {license certs : List (List Char)}
    (isLicense : ∀ text ∈ license, IsLine text) (arePaths : ∀ cert ∈ certs, IsLine cert) :
    (main tools license certs).map getBuiltInRootCert =
      (certs.mapM (loadCertificateFile tools)).map fun ders =>
        if ders ≠ [] ∧ [] ∉ ders then some ders else none := by
  rw [main_eq, Option.map_map]
  cases loaded : certs.mapM (loadCertificateFile tools) with
  | none => rfl
  | some ders =>
      have written := tokens_headerLines isLicense arePaths (length_of_mapM loaded)
      have notEmpty (entry : List Char × List UInt8) : declarationTokens entry ≠ [] :=
        List.append_ne_nil_of_right_ne_nil _ (List.cons_ne_nil _ _)
      have atMost := length_le_flatMap notEmpty (named 0 ders)
      have enough : (named 0 ders).length <
          ((named 0 ders).flatMap declarationTokens ++ collectionTokens (named 0 ders)).length := by
        simp only [collectionTokens, List.length_append, List.length_cons]
        omega
      have read := @readDeclarations_entries [] _ _ enough (named_nodup ders 0)
      have noneNamed : named 0 ders ≠ [] ↔ ders ≠ [] := by
        rw [← List.length_pos_iff, length_named, List.length_pos_iff]
      have noneEmpty : (∀ entry ∈ named 0 ders, entry.2 ≠ []) ↔ [] ∉ ders := by
        nth_rewrite 2 [← named_data ders 0]
        rw [List.mem_map]
        constructor
        · rintro noneEmpty ⟨entry, isNamed, isEmpty⟩
          exact noneEmpty entry isNamed isEmpty
        · intro noneEmpty entry isNamed isEmpty
          exact noneEmpty ⟨entry, isNamed, isEmpty⟩
      simp only [List.reverse_nil, List.nil_append, noneNamed, noneEmpty, named_data] at read
      rw [Option.map_some, Option.map_some, Function.comp_apply, getBuiltInRootCert, written,
        expect_append, Option.bind_eq_bind, Option.bind_some, read]

/-- One file is in each of the two formats. -/
def twoFormats : Tools (List UInt8) where
  read file := if file = "root.pem".toList then some [0x2d, 0x4d]
    else if file = "root.der".toList then some [0x30, 0xff, 0x0]
    else none
  loadPem data := if data.head? = some 0x2d then some [0x30, 0x31] else none
  loadAsn1 data := if data.head? = some 0x30 then some data else none
  dumpAsn1 x509 := x509

theorem getBuiltInRootCert_main_twoFormats :
    (main twoFormats [" Licensed under the Apache License, Version 2.0".toList]
      ["root.der".toList, "root.pem".toList]).map getBuiltInRootCert =
        some (some [[0x30, 0xff, 0x0], [0x30, 0x31]]) :=
  (getBuiltInRootCert_main twoFormats (by simp [IsLine]) (by simp [IsLine])).trans
    (by decide +kernel)

end Header

end PigweedExperimental.Tls.TrustStore
