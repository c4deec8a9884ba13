import Mathlib.Data.List.DropRight
import Mathlib.Data.List.TakeWhile

/-! The path of an `http` or `https` URL as the WHATWG URL parser computes it: the ends are
trimmed, tabs and newlines go, a backslash separates like a slash, and dot segments and their
percent spellings are resolved. What an appended text does to a prefix is decided by its own
pieces alone. -/

namespace UrlPath

abbrev Segment := List Char

def isSlash (c : Char) : Bool := c = '/' || c = '\\'

def isC0OrSpace (c : Char) : Bool := c.toNat ≤ 32

def isTabOrNewline (c : Char) : Bool := c = '\t' || c = '\n' || c = '\r'

/-- The query or the fragment starts here. -/
def endsPath (c : Char) : Bool := c = '?' || c = '#'

/-- The input without controls and spaces at its ends, without tabs and newlines. -/
def strip (url : List Char) : List Char :=
  ((url.dropWhile isC0OrSpace).rdropWhile isC0OrSpace).filter (!isTabOrNewline ·)

/-- The input up to its query or fragment. -/
def cut (text : List Char) : List Char := text.takeWhile (!endsPath ·)

/-- The path percent-encode set. -/
def inPathSet (c : Char) : Bool :=
  c.toNat < 32 || 126 < c.toNat || [' ', '"', '#', '<', '>', '?', '^', '`', '\x7b', '\x7d'].contains c

def hexDigit (n : Nat) : Char := Char.ofNat (if n < 10 then 48 + n else 55 + n)

def percentEncode (c : Char) : List Char :=
  if inPathSet c then
    (String.utf8EncodeChar c).flatMap fun b => ['%', hexDigit (b.toNat / 16), hexDigit (b.toNat % 16)]
  else [c]

def isSingleDot (piece : Segment) : Bool :=
  [['.'], ['%', '2', 'e']].contains (piece.map Char.toLower)

def isDoubleDot (piece : Segment) : Bool :=
  [['.', '.'], ['.', '%', '2', 'e'], ['%', '2', 'e', '.'],
    ['%', '2', 'e', '%', '2', 'e']].contains (piece.map Char.toLower)

/-- A piece with a slash after it: two dots leave the last segment, one dot stays. -/
def step (path : List Segment) (piece : Segment) : List Segment :=
  if isDoubleDot piece then path.dropLast
  else if isSingleDot piece then path
  else path ++ [piece]

/-- The last piece: after a dot segment the path ends in a slash. -/
def finish (path : List Segment) (piece : Segment) : List Segment :=
  if isDoubleDot piece then path.dropLast ++ [[]]
  else if isSingleDot piece then path ++ [[]]
  else path ++ [piece]

def walk (path : List Segment) (pieces : List Segment) : List Segment := pieces.foldl step path

def resolve (path : List Segment) : List Segment → List Segment
  | [] => path
  | [last] => finish path last
  | piece :: next :: rest => resolve (step path piece) (next :: rest)

/-- The pieces of a path text, percent-encoded. -/
def pieces (text : List Char) : List Segment :=
  (text.splitOnP isSlash).map fun piece => piece.flatMap percentEncode

def notColon (c : Char) : Bool := c ≠ ':'

def notSlash (c : Char) : Bool := !isSlash c

/-- What stands behind the scheme of an `http` or `https` URL. -/
def afterScheme (text : List Char) : Option (List Char) :=
  if [['h', 't', 't', 'p'], ['h', 't', 't', 'p', 's']].contains
      ((text.takeWhile notColon).map Char.toLower) then
    match text.dropWhile notColon with
    | [] => none
    | _ :: rest => some rest
  else none

/-- The authority and the path text behind it, whatever slashes come before. -/
def splitAuthority (text : List Char) : List Char × List Char :=
  let rest := text.dropWhile isSlash
  (rest.takeWhile notSlash, (rest.dropWhile notSlash).drop 1)

/-- The path behind a scheme and an authority that `hostOk` accepts. -/
def pathOf (hostOk : List Char → Bool) (text : List Char) : Option (List Segment) :=
  (afterScheme text).bind fun rest =>
    if (splitAuthority rest).1 ≠ [] ∧ hostOk (splitAuthority rest).1 then
      some (resolve [] (pieces (splitAuthority rest).2))
    else none

/-- The path the URL parser gives, when it takes the URL. -/
def parse (hostOk : List Char → Bool) (url : List Char) : Option (List Segment) :=
  pathOf hostOk (cut (strip url))

example : parse (fun _ => true) "https://h.example/v2/payments/..\\refunds".toList =
    some ["v2".toList, "refunds".toList] := by decide

theorem resolve_append (path : List Segment) (front : List Segment) {rest : List Segment}
    (some : rest ≠ []) : resolve path (front ++ rest) = resolve (walk path front) rest := by
  induction front generalizing path with
  | nil => rfl
  | cons piece front ih =>
    obtain ⟨next, others, same⟩ := List.exists_cons_of_ne_nil
      (List.append_ne_nil_of_right_ne_nil front some)
    rw [List.cons_append, same, resolve, ← same, ih]
    rfl

theorem resolve_concat (path front : List Segment) (last : Segment) :
    resolve path (front ++ [last]) = finish (walk path front) last :=
  resolve_append path front (List.cons_ne_nil last [])

theorem pieces_ne_nil (text : List Char) : pieces text ≠ [] := by
  simp [pieces]

theorem pieces_append_slash (front rest : List Char) :
    pieces (front ++ '/' :: rest) = pieces front ++ pieces rest := by
  unfold pieces
  rw [List.splitOnP_append_cons front rest (by decide), List.map_append]

/-- The pieces lead to one segment behind the path: the last is a name, and the others come
back to where they started. -/
def Stays (path pieces : List Segment) : Prop :=
  ∃ front last, pieces = front ++ [last] ∧ last ≠ [] ∧ ¬ isSingleDot last ∧ ¬ isDoubleDot last ∧
    walk path front = path

theorem stays_iff {path pieces : List Segment} :
    Stays path pieces ↔ ∃ segment, segment ≠ [] ∧ resolve path pieces = path ++ [segment] := by
  constructor
  · intro ⟨front, last, same, named, single, double, back⟩
    subst pieces
    refine ⟨last, named, ?_⟩
    rw [resolve_concat, finish, if_neg double, if_neg single, back]
  · intro ⟨segment, named, resolved⟩
    rcases List.eq_nil_or_concat' pieces with empty | ⟨front, last, same⟩
    · subst empty
      simp [resolve] at resolved
    · subst same
      rw [resolve_concat, finish] at resolved
      by_cases double : isDoubleDot last
      · rw [if_pos double] at resolved
        exact absurd (List.append_inj_right' resolved rfl) (by simpa using Ne.symm named)
      by_cases single : isSingleDot last
      · rw [if_neg double, if_pos single] at resolved
        exact absurd (List.append_inj_right' resolved rfl) (by simpa using Ne.symm named)
      · rw [if_neg double, if_neg single] at resolved
        have lasts := List.append_inj_right' resolved rfl
        have fronts := List.append_inj_left' resolved rfl
        simp only [List.cons.injEq, and_true] at lasts
        subst lasts
        exact ⟨front, last, rfl, named, single, double, fronts⟩

/-- What drops nothing that is needed drops nothing more of a longer text. -/
theorem dropWhile_append_of_ne_nil {p : α → Bool} {text : List α} (kept : text.dropWhile p ≠ [])
    (rest : List α) : (text ++ rest).dropWhile p = text.dropWhile p ++ rest := by
  rw [List.dropWhile_append, if_neg (by simpa using kept)]

theorem takeWhile_append_of_dropWhile {p : α → Bool} {text : List α}
    (kept : text.dropWhile p ≠ []) (rest : List α) :
    (text ++ rest).takeWhile p = text.takeWhile p := by
  have shorter : (text.takeWhile p).length ≠ text.length := by
    intro same
    have whole := congrArg List.length (List.takeWhile_append_dropWhile (p := p) (l := text))
    rw [List.length_append] at whole
    exact kept (List.length_eq_zero_iff.mp (by omega))
  rw [List.takeWhile_append, if_neg shorter]

/-- A slash at the end stays at the end of what is left of a text. -/
theorem getLast?_dropWhile {p : Char → Bool} {text : List Char} (ends : text.getLast? = some '/')
    (kept : text.dropWhile p ≠ []) : (text.dropWhile p).getLast? = some '/' := by
  rw [← ends]
  conv_rhs => rw [← List.takeWhile_append_dropWhile (p := p) (l := text)]
  rw [List.getLast?_append_of_ne_nil _ kept]

theorem dropWhile_ne_nil {p : Char → Bool} {text : List Char} (ends : text.getLast? = some '/')
    (stops : p '/' = false) : text.dropWhile p ≠ [] := by
  intro dropped
  have dropsSlash := List.dropWhile_eq_nil_iff.mp dropped '/' (List.mem_of_getLast? ends)
  rw [stops] at dropsSlash
  cases dropsSlash

/-- Behind the first character of such a text comes nothing, or a text that ends in a slash. -/
theorem tail_ends {first : Char} {rest : List Char} (ends : (first :: rest).getLast? = some '/') :
    (rest = [] ∧ first = '/') ∨ rest.getLast? = some '/' := by
  cases rest with
  | nil => exact .inl ⟨rfl, by simpa using ends⟩
  | cons next others => exact .inr (by simpa using ends)

theorem afterScheme_append {text rest : List Char} (found : afterScheme text = some rest)
    (appended : List Char) : afterScheme (text ++ appended) = some (rest ++ appended) := by
  unfold afterScheme at found ⊢
  split at found
  · rename_i scheme
    cases behind : text.dropWhile notColon with
    | nil =>
      rw [behind] at found
      cases found
    | cons colon tail =>
      have kept : text.dropWhile notColon ≠ [] := by rw [behind]; exact List.cons_ne_nil colon tail
      rw [behind] at found
      cases found
      rw [takeWhile_append_of_dropWhile kept, if_pos scheme, dropWhile_append_of_ne_nil kept, behind]
      rfl
  · cases found

theorem afterScheme_ends {text rest : List Char} (ends : text.getLast? = some '/')
    (found : afterScheme text = some rest) : rest.getLast? = some '/' := by
  unfold afterScheme at found
  split at found
  · cases behind : text.dropWhile notColon with
    | nil =>
      rw [behind] at found
      cases found
    | cons colon tail =>
      rw [behind] at found
      cases found
      have kept : text.dropWhile notColon ≠ [] := by rw [behind]; exact List.cons_ne_nil colon rest
      have last := getLast?_dropWhile ends kept
      have stopped := List.head?_dropWhile_not notColon text
      rw [behind] at last stopped
      rcases tail_ends last with ⟨_, slash⟩ | later
      · subst slash
        cases stopped
      · exact later
  · cases found

/-- A text behind the authority stays behind it. -/
theorem splitAuthority_append {text : List Char} (ends : text.getLast? = some '/')
    (host : (splitAuthority text).1 ≠ []) (appended : List Char) :
    ((splitAuthority text).2 = [] ∨ (splitAuthority text).2.getLast? = some '/') ∧
      splitAuthority (text ++ appended) =
        ((splitAuthority text).1, (splitAuthority text).2 ++ appended) := by
  simp only [splitAuthority] at host ⊢
  have kept : text.dropWhile isSlash ≠ [] := by
    intro empty
    rw [empty] at host
    exact host rfl
  have slash := dropWhile_ne_nil (p := notSlash) (getLast?_dropWhile ends kept) rfl
  obtain ⟨first, body, behind⟩ := List.exists_cons_of_ne_nil slash
  rw [dropWhile_append_of_ne_nil kept, takeWhile_append_of_dropWhile slash,
    dropWhile_append_of_ne_nil slash, behind]
  have last := getLast?_dropWhile (getLast?_dropWhile ends kept) slash
  rw [behind] at last
  exact ⟨(tail_ends last).imp_left And.left, rfl⟩

/-- Behind a path text that ends in a slash, only the pieces of what is appended count. -/
theorem pathOf_append {hostOk : List Char → Bool} {text : List Char} {path : List Segment}
    (ends : text.getLast? = some '/') (parsed : pathOf hostOk text = some path) :
    ∃ segments, path = segments ++ [[]] ∧
      ∀ rest, pathOf hostOk (text ++ rest) = some (resolve segments (pieces rest)) := by
  obtain ⟨behind, found, accepted⟩ := Option.bind_eq_some_iff.mp parsed
  split at accepted
  · rename_i host
    cases accepted
    have apart := splitAuthority_append (afterScheme_ends ends found) host.1
    have parsedOn : ∀ rest, pathOf hostOk (text ++ rest) =
        some (resolve [] (pieces ((splitAuthority behind).2 ++ rest))) := by
      intro rest
      rw [pathOf, afterScheme_append found rest, Option.bind_some, (apart rest).2, if_pos host]
    rcases (apart []).1 with empty | last
    · refine ⟨[], by rw [empty]; rfl, fun rest => ?_⟩
      rw [parsedOn, empty, List.nil_append]
    · obtain ⟨front, same⟩ : ∃ front, (splitAuthority behind).2 = front ++ ['/'] :=
        ⟨_, (List.dropLast_append_getLast? '/' last).symm⟩
      refine ⟨walk [] (pieces front), ?_, fun rest => ?_⟩
      · rw [same, pieces_append_slash, resolve_append [] _ (pieces_ne_nil [])]
        rfl
      · rw [parsedOn, same, List.append_assoc, List.singleton_append, pieces_append_slash,
          resolve_append [] _ (pieces_ne_nil rest)]
  · cases accepted

/-- What is left of an appended text: its end trimmed, and nothing from a query on. -/
def remainder (appended : List Char) : List Char :=
  cut ((appended.rdropWhile isC0OrSpace).filter (!isTabOrNewline ·))

/-- Trimming stops at a character it keeps. -/
theorem rdropWhile_append_stop {p : Char → Bool} {c : Char} (stops : p c = false)
    (front rest : List Char) :
    (front ++ c :: rest).rdropWhile p = front ++ c :: rest.rdropWhile p := by
  simp only [List.rdropWhile, List.reverse_append, List.reverse_cons, List.append_assoc,
    List.singleton_append, List.dropWhile_append]
  have kept : (c :: front.reverse).dropWhile p = c :: front.reverse := by
    rw [List.dropWhile_cons, stops]
    rfl
  split
  · rename_i empty
    rw [kept, List.isEmpty_iff.mp empty]
    simp
  · simp

/-- Stripping treats a text that ends in a slash and what is appended to it apart. -/
theorem strip_append (base : List Char) :
    ∃ front, (∀ c, endsPath c → (c ∈ front ↔ c ∈ base)) ∧ ∀ appended,
      strip (base ++ '/' :: appended) =
        front ++ '/' :: (appended.rdropWhile isC0OrSpace).filter (!isTabOrNewline ·) := by
  have ends : (base ++ ['/']).getLast? = some '/' := by simp
  have kept := dropWhile_ne_nil (p := isC0OrSpace) ends (by decide)
  obtain ⟨front, same⟩ : ∃ front, (base ++ ['/']).dropWhile isC0OrSpace = front ++ ['/'] :=
    ⟨_, (List.dropLast_append_getLast? '/' (getLast?_dropWhile ends kept)).symm⟩
  refine ⟨front.filter (!isTabOrNewline ·), ?_, fun appended => ?_⟩
  · intro c special
    have whole := List.takeWhile_append_dropWhile (p := isC0OrSpace) (l := base ++ ['/'])
    rw [same, ← List.append_assoc] at whole
    have bases := List.append_cancel_right whole
    have visible : ¬ isC0OrSpace c ∧ ¬ isTabOrNewline c := by
      rcases (by simpa [endsPath] using special : c = '?' ∨ c = '#') with mark | mark <;>
        subst mark <;> decide
    rw [← bases, List.mem_append, List.mem_filter]
    constructor
    · intro ⟨member, _⟩
      exact .inr member
    · intro member
      rcases member with trimmed | member
      · exact absurd (List.mem_takeWhile_imp trimmed) visible.1
      · exact ⟨member, by simpa using visible.2⟩
  · have split : base ++ '/' :: appended = (base ++ ['/']) ++ appended := by simp
    rw [strip, split, dropWhile_append_of_ne_nil kept, same, List.append_assoc,
      List.singleton_append, rdropWhile_append_stop (by decide), List.filter_append]
    rfl

/-- Behind a prefix without a query, only the pieces of what is appended count. -/
theorem parse_append {hostOk : List Char → Bool} {base : List Char} {path : List Segment}
    (plain : ∀ c ∈ base, ¬ endsPath c) (parsed : parse hostOk (base ++ ['/']) = some path) :
    ∃ segments, path = segments ++ [[]] ∧ ∀ appended,
      parse hostOk (base ++ '/' :: appended) =
        some (resolve segments (pieces (remainder appended))) := by
  obtain ⟨front, members, stripped⟩ := strip_append base
  have cutAt : ∀ rest, cut (front ++ '/' :: rest) = (front ++ ['/']) ++ cut rest := by
    intro rest
    have all : ∀ c ∈ front ++ ['/'], (!endsPath c) = true := by
      intro c member
      by_contra special
      have special : endsPath c := by simpa using special
      rcases List.mem_append.mp member with member | member
      · exact plain c ((members c special).mp member) special
      · rw [List.mem_singleton.mp member] at special
        cases special
    have whole : front ++ '/' :: rest = (front ++ ['/']) ++ rest := by simp
    rw [cut, whole, List.takeWhile_append_of_pos all, cut]
  have parsed' : pathOf hostOk (front ++ ['/']) = some path := by
    rw [parse, stripped [], cutAt] at parsed
    simpa [cut] using parsed
  obtain ⟨segments, same, onward⟩ := pathOf_append (by simp) parsed'
  refine ⟨segments, same, fun appended => ?_⟩
  rw [parse, stripped, cutAt, onward, remainder]

/-- Behind a prefix with a query, nothing that is appended counts. -/
theorem parse_append_of_query {hostOk : List Char → Bool} {base : List Char}
    (query : ∃ c ∈ base, endsPath c) (appended : List Char) :
    parse hostOk (base ++ '/' :: appended) = parse hostOk (base ++ ['/']) := by
  obtain ⟨front, members, stripped⟩ := strip_append base
  obtain ⟨c, member, special⟩ := query
  have stops : front.dropWhile (!endsPath ·) ≠ [] := by
    intro dropped
    have plain := List.dropWhile_eq_nil_iff.mp dropped c ((members c special).mpr member)
    rw [special] at plain
    cases plain
  have cutAt : ∀ rest, cut (front ++ rest) = cut front := fun rest =>
    takeWhile_append_of_dropWhile stops rest
  rw [parse, parse, stripped, stripped, cutAt, cutAt]

end UrlPath
