import ColumnConstants.Disk.Basic
import ColumnConstants.Log.Record

namespace ColumnConstants

-- What a run needs from the system around it, be it that of the machine or a `Session`.
class Host (m : Type → Type) where
  currentDirectory : m (Except Fault String)
  read (path : String) : m (Except ReadFault String)
  write (path text : String) : m (Except Fault Unit)
  print (text : String) : m Unit
  record (r : Record) : m Unit

instance {ε : Type} {m : Type → Type} [Monad m] [Host m] : Host (ExceptT ε m) where
  currentDirectory := ExceptT.lift Host.currentDirectory
  read path := ExceptT.lift (Host.read path)
  write path text := ExceptT.lift (Host.write path text)
  print text := ExceptT.lift (Host.print text)
  record r := ExceptT.lift (Host.record r)

end ColumnConstants
