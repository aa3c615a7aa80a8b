import Tron.Layout
import Tron.Log
import Tron.Session.Workspace
import Tron.Settings

/-! # Events

What happens in a session and is noted in the log. The wording is for the log's
readers and is the only thing here in their language.
-/

namespace Tron

structure Tally where
  variableCount : Nat
  functionCount : Nat
  deriving Repr, DecidableEq

/-- An occurrence in a session that leaves a log record. -/
inductive Event where
  | opened (uri : String)
  | changed (uri : String)
  | closed (uri : String)
  | scanned (tally : Tally)
  | updated (uri : String) (tally : Tally)
  | followed (uri : String) (tally : Tally)
  | followingFailed (uri : String) (fault : Unreadable)
  | forgotten (uri : String)
  | discarded (documents : Nat)
  | configured (preferences : Preferences)
  | configuringFailed
  | completionUnknown (uri : String)
  | formattingOff (uri : String)
  | formattingUnknown (uri : String)
  | formattingAborted (uri : String) (fault : Unclosed)
  | ending
  deriving Repr, DecidableEq

namespace Event

def level : Event → Level
  | .opened _ | .changed _ | .closed _ | .forgotten _ | .discarded _ | .configured _
  | .ending => .info
  | .scanned _ | .updated _ _ | .followed _ _ | .completionUnknown _
  | .formattingOff _ => .debug
  | .formattingUnknown _ | .formattingAborted _ _ => .warning
  | .followingFailed _ _ | .configuringFailed => .error

/-- The part of the server that notes an event. -/
def speaker : Event → Speaker
  | .scanned _ => .declarations
  | .updated _ _ | .forgotten _ | .discarded _ => .documents
  | _ => .server

def tallyText (t : Tally) : String := s!"{t.variableCount} variáveis, {t.functionCount} funções"

def switchText (on : Bool) : String := if on then "True" else "False"

def message : Event → String
  | .opened uri => s!"Documento aberto: {uri}"
  | .changed uri => s!"Documento modificado: {uri}"
  | .closed uri => s!"Documento fechado: {uri}"
  | .scanned tally => "Scan concluído: " ++ tallyText tally
  | .updated uri tally => s!"Símbolos atualizados para {uri}: " ++ tallyText tally
  | .followed uri tally => s!"Rastreamento completo: {uri} - " ++ tallyText tally
  | .followingFailed uri fault => s!"Erro ao rastrear {uri}: " ++ fault.message
  | .forgotten uri => s!"Símbolos removidos para: {uri}"
  | .discarded documents => s!"Tabela de símbolos descartada ({documents} documentos)"
  | .configured preferences =>
    "Configuração atualizada: completion.crossDocument = " ++
      switchText preferences.sharedCompletion ++
      ", formatting.enabled = " ++ switchText preferences.formatting
  | .configuringFailed =>
    "Erro ao processar mudança de configuração: 'NoneType' object has no attribute 'settings'"
  | .completionUnknown uri => s!"Completion para documento desconhecido: {uri}"
  | .formattingOff uri => s!"Formatação desabilitada, pulando: {uri}"
  | .formattingUnknown uri => s!"Formatação pedida para documento desconhecido: {uri}"
  | .formattingAborted uri fault =>
    s!"Formatação abortada para {uri}: " ++ fault.message ++
      s!" ({fault.openBlocks} bloco(s) aberto(s))"
  | .ending => "Encerrando Tron Language Server"

def logRecord (e : Event) : LogRecord := ⟨e.level, e.speaker, e.message⟩

end Event

end Tron
