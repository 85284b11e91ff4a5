import Mathlib.Data.List.TakeWhile
import RouteLens.Artisan.Fetch
import RouteLens.Proofs.Text.Decoding

/-!
# What a fetch gives

A fetch gives a listing in two ways only: the empty one of a directory without the script, for which
nothing is started, and what a program wrote that ended with success, octet by octet
(`Artisan.fetch_exact`). Of several things that are wrong the first counts: the program did not
start, it was not seen to end, its status, its output.
-/

namespace RouteLens

/-! ## Trimmed texts -/

namespace Text

/-- A text without the blanks at its ends. -/
structure Trimmed (text trimmed : List Char) : Prop where
  split : ∃ front back, text = front ++ (trimmed ++ back) ∧ (∀ c ∈ front, isBlank c = true) ∧
    ∀ c ∈ back, isBlank c = true
  head : ∀ c ∈ trimmed.head?, isBlank c = false
  last : ∀ c ∈ trimmed.getLast?, isBlank c = false

theorem exists_skipBlanks (text : List Char) :
    ∃ front, text = front ++ skipBlanks text ∧ (∀ c ∈ front, isBlank c = true) ∧
      ∀ c ∈ (skipBlanks text).head?, isBlank c = false := by
  refine ⟨text.takeWhile isBlank, List.takeWhile_append_dropWhile.symm, ?_, ?_⟩
  · intro c hc
    exact List.mem_takeWhile_imp hc
  · intro c hc
    have := List.head?_dropWhile_not isBlank text
    rw [skipBlanks] at hc
    simp_all

theorem skipBlanks_append_of_head {front text : List Char} (hfront : ∀ c ∈ front, isBlank c = true)
    (htext : ∀ c ∈ text.head?, isBlank c = false) : skipBlanks (front ++ text) = text := by
  rw [skipBlanks, List.dropWhile_append_of_pos hfront]
  cases text with
  | nil => rfl
  | cons c text => simp [htext c rfl]

theorem trimmed_trim (text : List Char) : Trimmed text (trim text) := by
  obtain ⟨front, hsplit, hfront, hhead⟩ := exists_skipBlanks text
  obtain ⟨back, hreverse, hback, hlast⟩ := exists_skipBlanks (skipBlanks text).reverse
  have hinner : skipBlanks text = trim text ++ back.reverse := by
    rw [trim, ← List.reverse_append, ← hreverse, List.reverse_reverse]
  refine ⟨⟨front, back.reverse, ?_, hfront, ?_⟩, ?_, ?_⟩
  · rw [← hinner]
    exact hsplit
  · intro c hc
    exact hback c (List.mem_reverse.mp hc)
  · intro c hc
    apply hhead c
    rw [hinner, List.head?_append, Option.mem_def.mp hc]
    rfl
  · intro c hc
    apply hlast c
    rw [trim, List.getLast?_reverse] at hc
    exact hc

/-- There is one way to trim a text. -/
theorem trimmed_iff {text trimmed : List Char} : Trimmed text trimmed ↔ trim text = trimmed := by
  constructor
  · rintro ⟨⟨front, back, rfl, hfront, hback⟩, hhead, hlast⟩
    cases trimmed with
    | nil =>
      have hall : ∀ c ∈ front ++ ([] ++ back), isBlank c = true := by
        intro c hc
        rcases List.mem_append.mp hc with hc | hc
        · exact hfront c hc
        · exact hback c hc
      have hnone : skipBlanks (front ++ ([] ++ back)) = [] := List.dropWhile_eq_nil_iff.mpr hall
      rw [trim, hnone]
      rfl
    | cons c trimmed =>
      have hfirst : skipBlanks (front ++ (c :: trimmed ++ back)) = c :: trimmed ++ back :=
        skipBlanks_append_of_head hfront hhead
      have hreverse : ∀ d ∈ back.reverse, isBlank d = true := by
        intro d hd
        exact hback d (List.mem_reverse.mp hd)
      rw [trim, hfirst, List.reverse_append, skipBlanks_append_of_head hreverse,
        List.reverse_reverse]
      rwa [List.head?_reverse]
  · rintro rfl
    exact trimmed_trim text

end Text

namespace Artisan

/-! ## Outcomes -/

theorem isSuccess_iff {status : ExitStatus} : status.isSuccess = true ↔ status = .exited 0 := by
  cases status <;> simp [ExitStatus.isSuccess]

theorem diagnostics_eq_iff {stderr : Bytes} {message : String} :
    diagnostics stderr = message ↔
      ∃ text, Utf8.Lossy stderr text ∧ Text.Trimmed text message.toList := by
  rw [diagnostics]
  constructor
  · rintro rfl
    exact ⟨_, Utf8.lossy_iff.mpr rfl, Text.trimmed_iff.mpr String.toList_ofList.symm⟩
  · rintro ⟨text, hlossy, htrimmed⟩
    rw [Utf8.lossy_iff.mp hlossy, Text.trimmed_iff.mp htrimmed, String.ofList_toList]

/-- What the outcome of a command means. A failure to start or to await is passed on, and a program
that is overdue has no status. With another status than success only what it wrote for people to
read counts, and with success only its output: the text that the output is the encoding of, or the
place where it stops being one. -/
inductive Means (limit : Duration) : Outcome → Except FetchError String → Prop
  | notStarted {failure : IoFailure} : Means limit (.notStarted failure) (.error (.io failure))
  | notAwaited {failure : IoFailure} : Means limit (.notAwaited failure) (.error (.io failure))
  | overdue : Means limit .overdue (.error (.timeout limit))
  | failed {status : ExitStatus} {stdout stderr : Bytes} {text : List Char} {message : String} :
      status ≠ .exited 0 → Utf8.Lossy stderr text → Text.Trimmed text message.toList →
      Means limit (.ended status stdout stderr) (.error (.exit status.text message))
  | garbled {stdout stderr : Bytes} {fault : Utf8.Fault} : Utf8.FaultAt stdout fault →
      Means limit (.ended (.exited 0) stdout stderr) (.error (.utf8 fault))
  | listed {stdout stderr : Bytes} {listing : String} : Utf8.encodeString listing = stdout →
      Means limit (.ended (.exited 0) stdout stderr) (.ok listing)

theorem classify_success (limit : Duration) (stdout stderr : Bytes) :
    classify limit (.ended (.exited 0) stdout stderr) =
      match Utf8.decode stdout with
      | .ok listing => .ok listing
      | .error fault => .error (.utf8 fault) := rfl

/-- Outcomes are classified by what they mean. -/
theorem means_iff {limit : Duration} {outcome : Outcome} {result : Except FetchError String} :
    Means limit outcome result ↔ classify limit outcome = result := by
  constructor
  · intro h
    cases h with
    | notStarted => rfl
    | notAwaited => rfl
    | overdue => rfl
    | failed hstatus hlossy htrimmed =>
      have hfail : ¬ ExitStatus.isSuccess _ = true := mt isSuccess_iff.mp hstatus
      rw [classify, if_neg hfail, diagnostics_eq_iff.mpr ⟨_, hlossy, htrimmed⟩]
    | garbled hfault => rw [classify_success, Utf8.decode_eq_error_iff.mpr hfault]
    | listed hlisting => rw [classify_success, Utf8.decode_eq_ok_iff.mpr hlisting]
  · rintro rfl
    cases outcome with
    | notStarted failure => exact .notStarted
    | notAwaited failure => exact .notAwaited
    | overdue => exact .overdue
    | ended status stdout stderr =>
      by_cases hstatus : status = .exited 0
      · subst hstatus
        rw [classify_success]
        split
        · next hdecode => exact .listed (Utf8.decode_eq_ok_iff.mp hdecode)
        · next hdecode => exact .garbled (Utf8.decode_eq_error_iff.mp hdecode)
      · have hfail : ¬ status.isSuccess = true := mt isSuccess_iff.mp hstatus
        obtain ⟨text, hlossy, htrimmed⟩ := diagnostics_eq_iff.mp (rfl : diagnostics stderr = _)
        rw [classify, if_neg hfail]
        exact .failed hstatus hlossy htrimmed

example : classify { secs := 30 } (.ended (.exited 1) [0xff] [0x20, 0x6e, 0x6f, 0xe2, 0x82, 0x0a]) =
    .error (.exit "exit status: 1" "no\ufffd") := by
  cbv

theorem means_ok_iff (limit : Duration) {outcome : Outcome} {listing : String} :
    Means limit outcome (.ok listing) ↔
      ∃ stderr, outcome = .ended (.exited 0) (Utf8.encodeString listing) stderr := by
  constructor
  · intro h
    cases h with
    | listed hlisting => exact ⟨_, by rw [hlisting]⟩
  · rintro ⟨stderr, rfl⟩
    exact .listed rfl

/-- Output is refused exactly when it is the encoding of no text. -/
theorem exists_means_utf8_iff (limit : Duration) (stdout stderr : Bytes) :
    (∃ fault, Means limit (.ended (.exited 0) stdout stderr) (.error (.utf8 fault))) ↔
      ∀ listing, Utf8.encodeString listing ≠ stdout := by
  constructor
  · rintro ⟨fault, h⟩ listing
    cases h with
    | garbled hfault => exact hfault.ne_encode listing.toList
  · intro hnone
    cases hdecode : Utf8.decode stdout with
    | ok listing => exact absurd (Utf8.decode_eq_ok_iff.mp hdecode) (hnone listing)
    | error fault => exact ⟨fault, .garbled (Utf8.decode_eq_error_iff.mp hdecode)⟩

/-! ## Fetches -/

section Fetch

variable (launch : Launcher) {config : Config} {dir : Path} {files : FileTree}

theorem fetch_of_no_script
    (h : files.pathExists (Path.joinString dir config.artisan) = false) :
    fetch launch config dir files = (⟨.ok "[]", none⟩, files) := by
  have hscript : ¬ hasScript files dir config.artisan = true := by
    rw [hasScript, h]
    exact Bool.false_ne_true
  exact if_neg hscript

theorem fetch_of_script
    (h : files.pathExists (Path.joinString dir config.artisan) = true) :
    fetch launch config dir files =
      (⟨classify config.timeout (launch (command config dir) files).1,
        some (command config dir)⟩, (launch (command config dir) files).2) :=
  if_pos h

end Fetch

/-- What a fetch gives. Without the script it gives the empty listing, whatever starts programs, and
runs nothing. With the script it runs the command, and gives what its outcome means; output that is
the encoding of no text is refused. So there is a listing in two cases only: the script is missing
and the listing is the empty one, or the program ended with success and wrote exactly the octets of
the listing. -/
theorem fetch_exact (launch : Launcher) (config : Config) (dir : Path) (files : FileTree) :
    (files.pathExists (Path.joinString dir config.artisan) = false →
      fetch launch config dir files = (⟨.ok "[]", none⟩, files)) ∧
    (files.pathExists (Path.joinString dir config.artisan) = true →
      (fetch launch config dir files).1.ran = some (command config dir) ∧
      (fetch launch config dir files).2 = (launch (command config dir) files).2 ∧
      (∀ result, (fetch launch config dir files).1.listing = result ↔
        Means config.timeout (launch (command config dir) files).1 result) ∧
      ∀ stdout stderr, (launch (command config dir) files).1 = .ended (.exited 0) stdout stderr →
        ((∃ fault, (fetch launch config dir files).1.listing = .error (.utf8 fault)) ↔
          ∀ listing, Utf8.encodeString listing ≠ stdout)) ∧
    ∀ listing, (fetch launch config dir files).1.listing = .ok listing ↔
      (files.pathExists (Path.joinString dir config.artisan) = false ∧ listing = "[]") ∨
      (files.pathExists (Path.joinString dir config.artisan) = true ∧ ∃ stderr,
        (launch (command config dir) files).1 =
          .ended (.exited 0) (Utf8.encodeString listing) stderr) := by
  refine ⟨fetch_of_no_script launch, fun hscript => ?_, fun listing => ?_⟩
  · rw [fetch_of_script launch hscript]
    refine ⟨rfl, rfl, fun result => means_iff.symm, fun stdout stderr hended => ?_⟩
    rw [hended, ← exists_means_utf8_iff config.timeout stdout stderr]
    simp only [means_iff]
  · cases hscript : files.pathExists (Path.joinString dir config.artisan) with
    | false =>
      rw [fetch_of_no_script launch hscript]
      simp [eq_comm]
    | true =>
      rw [fetch_of_script launch hscript, ← means_ok_iff config.timeout, means_iff]
      simp

end Artisan

end RouteLens
