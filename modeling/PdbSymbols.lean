import PdbSymbols.ByteOrder
import PdbSymbols.RawString
import PdbSymbols.ParseBuffer
import PdbSymbols.Reads
import PdbSymbols.SymbolKinds
import PdbSymbols.CommonTypes
import PdbSymbols.NamedRecords
import PdbSymbols.ScopeRecords
import PdbSymbols.FrameRecords
import PdbSymbols.SlotRecords
import PdbSymbols.DefRangeRecords
import PdbSymbols.FlagWords
import PdbSymbols.ListRecords
import PdbSymbols.SymbolData
import PdbSymbols.DecoderContract
import PdbSymbols.SymbolIter
import PdbSymbols.RecordStream
import PdbSymbols.DefRangeGaps
import PdbSymbols.RecordDecoding
import PdbSymbols.NameRoundTrip
import PdbSymbols.ScopeClassifier
import PdbSymbols.TrailingBytes
import PdbSymbols.Writer.RoundTrip
