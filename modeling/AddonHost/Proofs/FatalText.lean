import AddonHost.Proofs.Text.Utf8
import AddonHost.Session.Reachable

/-!
Texts of fatal errors.

The location and the message of a fatal error cross the boundary twice when the injected table is
that of a multiplexer: the entry reads them, `fatalError` passes them on, and the multiplexer's own
handler reads them again.  `fatal_texts` says that nothing is lost on the way:

* each text is read as the characters of its octets, with one replacement character for each maximal
  damaged part (`Lossy`);
* what was read once is read unchanged when it is passed on, and valid octets are not changed at
  all;
* so the line that is logged first and the line that the handler logs and prints are the same one.
-/

namespace AddonHost

namespace RawText

/-- What was read once is read unchanged when it is passed on. -/
@[simp] theorem text_ofString (s : String) : (ofString s).text = s :=
  Text.decodeLossy_encode s

theorem lossy_text (t : RawText) : Text.Lossy t.octets t.text.toList :=
  Text.lossy_iff.2 rfl

theorem toByteArray_text {t : RawText} (h : t.octets.toByteArray.IsValidUTF8) :
    t.text.toByteArray = t.octets.toByteArray :=
  Text.toByteArray_decodeLossy h

theorem text_null : null.text = "" := rfl

/-- A text that ends at a NUL is cut there. -/
theorem octets_terminated {before : List UInt8} (h : 0 ∉ before) (after : List UInt8) :
    (terminated (before ++ 0 :: after)).octets = before := by
  have hbefore : ∀ b ∈ before, decide (b ≠ 0) = true := by
    intro b hb
    refine decide_eq_true ?_
    rintro rfl
    exact h hb
  rw [octets, List.takeWhile_append_of_pos hbefore, List.takeWhile_cons_of_neg (by decide),
    List.append_nil]

end RawText

namespace Session

variable {s : Session}

theorem injected_log (level : Log.Level) (text : String) :
    (s.log level text).injected = s.injected := by
  simp only [log]
  split_ifs <;> rfl

/-- A fatal error that the handler of a multiplexer reports: one line, logged twice and printed. -/
theorem fatalError_of_multiplexer (hinjected : s.injected.provider? .fatalError = some .multiplexer)
    (location message : String) :
    s.fatalError location message
      = (((s.log .error (fatalLine location message)).log .error
          (fatalLine location message)).complain (fatalLine location message)).abort := by
  unfold Session.fatalError reportFatal
  simp only [injected_log, hinjected, RawText.text_ofString]

/-- The entry that reports a fatal error reads its two texts and goes on with them. -/
theorem callEntry_fatalError (args : EntryArgs) :
    s.callEntry "weak" .fatalError args = s.fatalError args.location.text args.message.text := rfl

/-- Texts of fatal errors are read once: each damaged part is replaced, what was read is read
unchanged, valid octets are kept; and with the handler of a multiplexer in the injected table, the
entry logs one line, and the handler logs and prints the same one. -/
theorem fatal_texts :
    (∀ text : RawText, Text.Lossy text.octets text.text.toList ∧
      (RawText.ofString text.text).text = text.text ∧
      (text.octets.toByteArray.IsValidUTF8 → text.text.toByteArray = text.octets.toByteArray)) ∧
    (∀ octets, (RawText.counted octets).octets = octets) ∧
    (∀ before after, 0 ∉ before → (RawText.terminated (before ++ 0 :: after)).octets = before) ∧
    RawText.null.text = "" ∧
    ∀ (s : Session) (t : ThreadId) (below : List Frame) (args : EntryArgs), s.halted = false →
      s.threads.get? t
        = some { control := .run (.perform (.entry "weak" .fatalError args)), stack := below } →
      s.injected.provider? .fatalError = some .multiplexer →
      let line := fatalLine args.location.text args.message.text
      s.step t
        = some (apply (((s.log .error line).log .error line).complain line).abort t below) := by
  refine ⟨fun text => ⟨text.lossy_text, RawText.text_ofString _, RawText.toByteArray_text⟩,
    fun _ => rfl, fun _ after h => RawText.octets_terminated h after, RawText.text_null, ?_⟩
  intro s t below args hrunning hthread hinjected line
  refine step_run hrunning hthread ?_
  show some (s.callEntry "weak" .fatalError args) = _
  rw [callEntry_fatalError, fatalError_of_multiplexer hinjected]

/-- A location that its NUL cuts in the middle of a character, and a message with half of a
surrogate pair. -/
def damagedTexts : EntryArgs where
  location := .terminated [0x61, 0xe2, 0x82, 0x00, 0x62]
  message := .counted [0xed, 0xa0, 0x80, 0x21]

/-- A session that has injected the table of a multiplexer and is about to report a fatal error with
damaged texts. -/
def reportingDamaged : Session :=
  (((start [] none).performed? [.createMultiplexer "m" false false, .inject (some "m")]).get
    (by decide +kernel)).beginAction (.entry "weak" .fatalError damagedTexts)

theorem fatal_texts_reportingDamaged :
    ∃ s', reportingDamaged.step .main = some s' ∧ s'.halted = true ∧
      s'.complaints = ["Fatal Node-API error: a\ufffd \ufffd\ufffd\ufffd!"] ∧
      s'.written.take 2 = List.replicate 2
        (Log.writtenLine .error "Fatal Node-API error: a\ufffd \ufffd\ufffd\ufffd!") := by
  obtain ⟨-, -, -, -, hreport⟩ := fatal_texts
  have hthread : reportingDamaged.threads.get? .main
      = some { control := .run (.perform (.entry "weak" .fatalError damagedTexts)) } := by
    rw [reportingDamaged, beginAction, setThread, Assoc.get?_insert, if_pos rfl]
  have hstep := hreport reportingDamaged .main [] damagedTexts (by decide +kernel) hthread
    (by decide +kernel)
  have hline : fatalLine damagedTexts.location.text damagedTexts.message.text
      = "Fatal Node-API error: a\ufffd \ufffd\ufffd\ufffd!" := by decide +kernel
  simp only [hline] at hstep
  exact ⟨_, hstep, rfl, by decide +kernel, by decide +kernel⟩

end Session

end AddonHost
