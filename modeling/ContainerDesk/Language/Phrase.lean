import ContainerDesk.Text.Basic

/-!
# Phrases

Every phrase that the desk shows, in the languages that it speaks.  A phrase has a
key of its own, by which settings and callers may ask for it as a text.  Names in
braces stand for what is filled in later.
-/

namespace ContainerDesk

inductive Language where
  | english
  | russian
deriving DecidableEq

def Language.code : Language → Text
  | .english => Text.of "en"
  | .russian => Text.of "ru"

inductive Phrase where
  | appTitle
  | refresh
  | start
  | stop
  | restart
  | delete
  | logs
  | login
  | copy
  | close
  | expand
  | collapse
  | nameColumn
  | idColumn
  | imageColumn
  | statusColumn
  | portsColumn
  | noContainers
  | onlyRunning
  | searchHint
  | runningCount
  | stoppedCount
  | loading
  | loaded
  | lastUpdated
  | engineError
  | engineRunning
  | engineStopped
  | memory
  | processor
  | confirmDelete
  | actionFailed
  | errorTitle
  | logsTitle
  | logsEmpty
  | loginTitle
deriving DecidableEq

namespace Phrase

def all : List Phrase :=
  [.appTitle, .refresh, .start, .stop, .restart, .delete, .logs, .login, .copy, .close, .expand,
    .collapse, .nameColumn, .idColumn, .imageColumn, .statusColumn, .portsColumn, .noContainers,
    .onlyRunning, .searchHint, .runningCount, .stoppedCount, .loading, .loaded, .lastUpdated,
    .engineError, .engineRunning, .engineStopped, .memory, .processor, .confirmDelete,
    .actionFailed, .errorTitle, .logsTitle, .logsEmpty, .loginTitle]

def key : Phrase → Text
  | .appTitle => Text.of "app.title"
  | .refresh => Text.of "actions.refresh"
  | .start => Text.of "actions.start"
  | .stop => Text.of "actions.stop"
  | .restart => Text.of "actions.restart"
  | .delete => Text.of "actions.delete"
  | .logs => Text.of "actions.logs"
  | .login => Text.of "actions.login"
  | .copy => Text.of "actions.copy"
  | .close => Text.of "actions.close"
  | .expand => Text.of "actions.expand"
  | .collapse => Text.of "actions.collapse"
  | .nameColumn => Text.of "tables.name"
  | .idColumn => Text.of "tables.id"
  | .imageColumn => Text.of "tables.image"
  | .statusColumn => Text.of "tables.status"
  | .portsColumn => Text.of "tables.ports"
  | .noContainers => Text.of "tables.no_data"
  | .onlyRunning => Text.of "tables.only_running"
  | .searchHint => Text.of "tables.search_placeholder"
  | .runningCount => Text.of "groups.running"
  | .stoppedCount => Text.of "groups.stopped"
  | .loading => Text.of "status.loading"
  | .loaded => Text.of "status.loaded"
  | .lastUpdated => Text.of "status.last_updated"
  | .engineError => Text.of "status.error"
  | .engineRunning => Text.of "footer.engine_running"
  | .engineStopped => Text.of "footer.engine_stopped"
  | .memory => Text.of "footer.stat_ram"
  | .processor => Text.of "footer.stat_cpu"
  | .confirmDelete => Text.of "messages.confirm_delete"
  | .actionFailed => Text.of "messages.action_failed"
  | .errorTitle => Text.of "messages.error_title"
  | .logsTitle => Text.of "logs.title"
  | .logsEmpty => Text.of "logs.empty"
  | .loginTitle => Text.of "login.title"

def english : Phrase → Text
  | .appTitle => Text.of "BayDesk"
  | .refresh => Text.of "Refresh"
  | .start => Text.of "Start"
  | .stop => Text.of "Stop"
  | .restart => Text.of "Restart"
  | .delete => Text.of "Delete"
  | .logs => Text.of "Logs"
  | .login => Text.of "Login command"
  | .copy => Text.of "Copy"
  | .close => Text.of "Close"
  | .expand => Text.of "Expand"
  | .collapse => Text.of "Collapse"
  | .nameColumn => Text.of "Name"
  | .idColumn => Text.of "Container ID"
  | .imageColumn => Text.of "Image"
  | .statusColumn => Text.of "Status"
  | .portsColumn => Text.of "Port(s)"
  | .noContainers => Text.of "No containers"
  | .onlyRunning => Text.of "Only running"
  | .searchHint => Text.of "Search containers..."
  | .runningCount => Text.of "running"
  | .stoppedCount => Text.of "stopped"
  | .loading => Text.of "Loading..."
  | .loaded => Text.of "Containers loaded"
  | .lastUpdated => Text.of "Last updated: \x7btimestamp\x7d"
  | .engineError => Text.of "Docker error: \x7bmessage\x7d"
  | .engineRunning => Text.of "Engine: running"
  | .engineStopped => Text.of "Engine: unreachable"
  | .memory => Text.of "RAM"
  | .processor => Text.of "CPU"
  | .confirmDelete => Text.of "Delete container \x7bname\x7d? This cannot be undone."
  | .actionFailed => Text.of "Container action failed. See logs for details."
  | .errorTitle => Text.of "Error"
  | .logsTitle => Text.of "Logs: \x7bname\x7d"
  | .logsEmpty => Text.of "No log output"
  | .loginTitle => Text.of "Login: \x7bname\x7d"

def russian : Phrase → Text
  | .appTitle => Text.of "BayDesk"
  | .refresh => Text.of "Обновить"
  | .start => Text.of "Запустить"
  | .stop => Text.of "Остановить"
  | .restart => Text.of "Перезапустить"
  | .delete => Text.of "Удалить"
  | .logs => Text.of "Логи"
  | .login => Text.of "Команда входа"
  | .copy => Text.of "Копировать"
  | .close => Text.of "Закрыть"
  | .expand => Text.of "Развернуть"
  | .collapse => Text.of "Свернуть"
  | .nameColumn => Text.of "Имя"
  | .idColumn => Text.of "ID контейнера"
  | .imageColumn => Text.of "Образ"
  | .statusColumn => Text.of "Статус"
  | .portsColumn => Text.of "Порты"
  | .noContainers => Text.of "Нет контейнеров"
  | .onlyRunning => Text.of "Только запущенные"
  | .searchHint => Text.of "Поиск контейнеров..."
  | .runningCount => Text.of "запущено"
  | .stoppedCount => Text.of "остановлено"
  | .loading => Text.of "Загрузка..."
  | .loaded => Text.of "Контейнеры загружены"
  | .lastUpdated => Text.of "Обновлено: \x7btimestamp\x7d"
  | .engineError => Text.of "Ошибка Docker: \x7bmessage\x7d"
  | .engineRunning => Text.of "Engine: работает"
  | .engineStopped => Text.of "Engine: недоступен"
  | .memory => Text.of "ОЗУ"
  | .processor => Text.of "ЦП"
  | .confirmDelete => Text.of "Удалить контейнер \x7bname\x7d? Действие необратимо."
  | .actionFailed =>
      Text.of "Не удалось выполнить действие над контейнером. Подробности смотрите в логах."
  | .errorTitle => Text.of "Ошибка"
  | .logsTitle => Text.of "Логи: \x7bname\x7d"
  | .logsEmpty => Text.of "Логи пусты"
  | .loginTitle => Text.of "Вход: \x7bname\x7d"

def ofKey? (key : Text) : Option Phrase :=
  all.find? fun phrase => phrase.key = key

end Phrase

namespace Language

def say (language : Language) (phrase : Phrase) : Text :=
  match language with
  | .english => phrase.english
  | .russian => phrase.russian

/-- The phrase with a key in a language; a key without a phrase stands for itself. -/
def sayKey (language : Language) (key : Text) : Text :=
  match Phrase.ofKey? key with
  | some phrase => language.say phrase
  | none => key

end Language

end ContainerDesk
