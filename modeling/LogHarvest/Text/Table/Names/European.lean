import LogHarvest.Text.Table.NameRun

/-!
# Names: the Latin, Greek, Cyrillic, Armenian and Hebrew scripts
-/

namespace LogHarvest.Text.Table

def europeanNames : List NameRun := [
  ⟨0x20, [
    "aSPACEaEXCLAMATION MARKaQUOTATION MARKaNUMBER SIGNaDOLLAR SIGNaPERCENT SIGNaAMPERSAND",
    "aAPOSTROPHEaLEFT PARENTHESISaRIGHT PARENTHESISaASTERISKaPLUS SIGNaCOMMAaHYPHEN-MINUS",
    "aFULL STOPaSOLIDUSaDIGIT ZERObONEbTWObTHREEbFOURbFIVEbSIXbSEVENbEIGHTbNINEaCOLONaSEMICOLON",
    "aLESS-THAN SIGNaEQUALS SIGNaGREATER-THAN SIGNaQUESTION MARKaCOMMERCIAL AT",
    "aLATIN CAPITAL LETTER AdBdCdDdEdFdGdHdIdJdKdLdMdNdOdPdQdRdSdTdUdVdWdXdYdZ",
    "aLEFT SQUARE BRACKETaREVERSE SOLIDUSaRIGHT SQUARE BRACKETaCIRCUMFLEX ACCENTaLOW LINE",
    "aGRAVE ACCENTaLATIN SMALL LETTER AdBdCdDdEdFdGdHdIdJdKdLdMdNdOdPdQdRdSdTdUdVdWdXdYdZ",
    "aLEFT CURLY BRACKETaVERTICAL LINEaRIGHT CURLY BRACKETaTILDE"]⟩,
  ⟨0xA0, [
    "aNO-BREAK SPACEaINVERTED EXCLAMATION MARKaCENT SIGNaPOUND SIGNaCURRENCY SIGNaYEN SIGN",
    "aBROKEN BARaSECTION SIGNaDIAERESISaCOPYRIGHT SIGNaFEMININE ORDINAL INDICATOR",
    "aLEFT-POINTING DOUBLE ANGLE QUOTATION MARKaNOT SIGNaSOFT HYPHENaREGISTERED SIGNaMACRON",
    "aDEGREE SIGNaPLUS-MINUS SIGNaSUPERSCRIPT TWObTHREEaACUTE ACCENTaMICRO SIGNaPILCROW SIGN",
    "aMIDDLE DOTaCEDILLAaSUPERSCRIPT ONEaMASCULINE ORDINAL INDICATOR",
    "aRIGHT-POINTING DOUBLE ANGLE QUOTATION MARKaVULGAR FRACTION ONE QUARTERdHALFcTHREE QUARTERS",
    "aINVERTED QUESTION MARKaLATIN CAPITAL LETTER A WITH GRAVEfACUTEfCIRCUMFLEXfTILDEfDIAERESIS",
    "fRING ABOVEdAEdC WITH CEDILLAdE WITH GRAVEfACUTEfCIRCUMFLEXfDIAERESISdI WITH GRAVEfACUTE",
    "fCIRCUMFLEXfDIAERESISdETHdN WITH TILDEdO WITH GRAVEfACUTEfCIRCUMFLEXfTILDEfDIAERESIS",
    "aMULTIPLICATION SIGNaLATIN CAPITAL LETTER O WITH STROKEdU WITH GRAVEfACUTEfCIRCUMFLEX",
    "fDIAERESISdY WITH ACUTEdTHORNbSMALL LETTER SHARP SdA WITH GRAVEfACUTEfCIRCUMFLEXfTILDE",
    "fDIAERESISfRING ABOVEdAEdC WITH CEDILLAdE WITH GRAVEfACUTEfCIRCUMFLEXfDIAERESIS",
    "dI WITH GRAVEfACUTEfCIRCUMFLEXfDIAERESISdETHdN WITH TILDEdO WITH GRAVEfACUTEfCIRCUMFLEX",
    "fTILDEfDIAERESISaDIVISION SIGNaLATIN SMALL LETTER O WITH STROKEdU WITH GRAVEfACUTE",
    "fCIRCUMFLEXfDIAERESISdY WITH ACUTEdTHORNdY WITH DIAERESIS"]⟩,
  ⟨0x100, [
    "aLATIN CAPITAL LETTER A WITH MACRONbSMALL LETTER A WITH MACRONbCAPITAL LETTER A WITH BREVE",
    "bSMALL LETTER A WITH BREVEbCAPITAL LETTER A WITH OGONEKbSMALL LETTER A WITH OGONEK",
    "bCAPITAL LETTER C WITH ACUTEbSMALL LETTER C WITH ACUTEbCAPITAL LETTER C WITH CIRCUMFLEX",
    "bSMALL LETTER C WITH CIRCUMFLEXbCAPITAL LETTER C WITH DOT ABOVE",
    "bSMALL LETTER C WITH DOT ABOVEbCAPITAL LETTER C WITH CARONbSMALL LETTER C WITH CARON",
    "bCAPITAL LETTER D WITH CARONbSMALL LETTER D WITH CARONbCAPITAL LETTER D WITH STROKE",
    "bSMALL LETTER D WITH STROKEbCAPITAL LETTER E WITH MACRONbSMALL LETTER E WITH MACRON",
    "bCAPITAL LETTER E WITH BREVEbSMALL LETTER E WITH BREVEbCAPITAL LETTER E WITH DOT ABOVE",
    "bSMALL LETTER E WITH DOT ABOVEbCAPITAL LETTER E WITH OGONEKbSMALL LETTER E WITH OGONEK",
    "bCAPITAL LETTER E WITH CARONbSMALL LETTER E WITH CARONbCAPITAL LETTER G WITH CIRCUMFLEX",
    "bSMALL LETTER G WITH CIRCUMFLEXbCAPITAL LETTER G WITH BREVEbSMALL LETTER G WITH BREVE",
    "bCAPITAL LETTER G WITH DOT ABOVEbSMALL LETTER G WITH DOT ABOVE",
    "bCAPITAL LETTER G WITH CEDILLAbSMALL LETTER G WITH CEDILLAbCAPITAL LETTER H WITH CIRCUMFLEX",
    "bSMALL LETTER H WITH CIRCUMFLEXbCAPITAL LETTER H WITH STROKEbSMALL LETTER H WITH STROKE",
    "bCAPITAL LETTER I WITH TILDEbSMALL LETTER I WITH TILDEbCAPITAL LETTER I WITH MACRON",
    "bSMALL LETTER I WITH MACRONbCAPITAL LETTER I WITH BREVEbSMALL LETTER I WITH BREVE",
    "bCAPITAL LETTER I WITH OGONEKbSMALL LETTER I WITH OGONEKbCAPITAL LETTER I WITH DOT ABOVE",
    "bSMALL LETTER DOTLESS IbCAPITAL LIGATURE IJbSMALL LIGATURE IJ",
    "bCAPITAL LETTER J WITH CIRCUMFLEXbSMALL LETTER J WITH CIRCUMFLEX",
    "bCAPITAL LETTER K WITH CEDILLAbSMALL LETTER K WITH CEDILLAdKRAbCAPITAL LETTER L WITH ACUTE",
    "bSMALL LETTER L WITH ACUTEbCAPITAL LETTER L WITH CEDILLAbSMALL LETTER L WITH CEDILLA",
    "bCAPITAL LETTER L WITH CARONbSMALL LETTER L WITH CARONbCAPITAL LETTER L WITH MIDDLE DOT",
    "bSMALL LETTER L WITH MIDDLE DOTbCAPITAL LETTER L WITH STROKEbSMALL LETTER L WITH STROKE",
    "bCAPITAL LETTER N WITH ACUTEbSMALL LETTER N WITH ACUTEbCAPITAL LETTER N WITH CEDILLA",
    "bSMALL LETTER N WITH CEDILLAbCAPITAL LETTER N WITH CARONbSMALL LETTER N WITH CARON",
    "ePRECEDED BY APOSTROPHEbCAPITAL LETTER ENGbSMALL LETTER ENGbCAPITAL LETTER O WITH MACRON",
    "bSMALL LETTER O WITH MACRONbCAPITAL LETTER O WITH BREVEbSMALL LETTER O WITH BREVE",
    "bCAPITAL LETTER O WITH DOUBLE ACUTEbSMALL LETTER O WITH DOUBLE ACUTEbCAPITAL LIGATURE OE",
    "bSMALL LIGATURE OEbCAPITAL LETTER R WITH ACUTEbSMALL LETTER R WITH ACUTE",
    "bCAPITAL LETTER R WITH CEDILLAbSMALL LETTER R WITH CEDILLAbCAPITAL LETTER R WITH CARON",
    "bSMALL LETTER R WITH CARONbCAPITAL LETTER S WITH ACUTEbSMALL LETTER S WITH ACUTE",
    "bCAPITAL LETTER S WITH CIRCUMFLEXbSMALL LETTER S WITH CIRCUMFLEX",
    "bCAPITAL LETTER S WITH CEDILLAbSMALL LETTER S WITH CEDILLAbCAPITAL LETTER S WITH CARON",
    "bSMALL LETTER S WITH CARONbCAPITAL LETTER T WITH CEDILLAbSMALL LETTER T WITH CEDILLA",
    "bCAPITAL LETTER T WITH CARONbSMALL LETTER T WITH CARONbCAPITAL LETTER T WITH STROKE",
    "bSMALL LETTER T WITH STROKEbCAPITAL LETTER U WITH TILDEbSMALL LETTER U WITH TILDE",
    "bCAPITAL LETTER U WITH MACRONbSMALL LETTER U WITH MACRONbCAPITAL LETTER U WITH BREVE",
    "bSMALL LETTER U WITH BREVEbCAPITAL LETTER U WITH RING ABOVEbSMALL LETTER U WITH RING ABOVE",
    "bCAPITAL LETTER U WITH DOUBLE ACUTEbSMALL LETTER U WITH DOUBLE ACUTE",
    "bCAPITAL LETTER U WITH OGONEKbSMALL LETTER U WITH OGONEKbCAPITAL LETTER W WITH CIRCUMFLEX",
    "bSMALL LETTER W WITH CIRCUMFLEXbCAPITAL LETTER Y WITH CIRCUMFLEX",
    "bSMALL LETTER Y WITH CIRCUMFLEXbCAPITAL LETTER Y WITH DIAERESISdZ WITH ACUTE",
    "bSMALL LETTER Z WITH ACUTEbCAPITAL LETTER Z WITH DOT ABOVEbSMALL LETTER Z WITH DOT ABOVE",
    "bCAPITAL LETTER Z WITH CARONbSMALL LETTER Z WITH CARONdLONG SdB WITH STROKE",
    "bCAPITAL LETTER B WITH HOOKfTOPBARbSMALL LETTER B WITH TOPBARbCAPITAL LETTER TONE SIX",
    "bSMALL LETTER TONE SIXbCAPITAL LETTER OPEN OdC WITH HOOKbSMALL LETTER C WITH HOOK",
    "bCAPITAL LETTER AFRICAN DdD WITH HOOKfTOPBARbSMALL LETTER D WITH TOPBARdTURNED DELTA",
    "bCAPITAL LETTER REVERSED EdSCHWAdOPEN EdF WITH HOOKbSMALL LETTER F WITH HOOK",
    "bCAPITAL LETTER G WITH HOOKdGAMMAbSMALL LETTER HVbCAPITAL LETTER IOTAdI WITH STROKE",
    "dK WITH HOOKbSMALL LETTER K WITH HOOKdL WITH BARdLAMBDA WITH STROKEbCAPITAL LETTER TURNED M",
    "dN WITH LEFT HOOKbSMALL LETTER N WITH LONG RIGHT LEGbCAPITAL LETTER O WITH MIDDLE TILDE",
    "fHORNbSMALL LETTER O WITH HORNbCAPITAL LETTER OIbSMALL LETTER OIbCAPITAL LETTER P WITH HOOK",
    "bSMALL LETTER P WITH HOOKbLETTER YRbCAPITAL LETTER TONE TWObSMALL LETTER TONE TWO",
    "bCAPITAL LETTER ESHbLETTER REVERSED ESH LOOPbSMALL LETTER T WITH PALATAL HOOK",
    "bCAPITAL LETTER T WITH HOOKbSMALL LETTER T WITH HOOKbCAPITAL LETTER T WITH RETROFLEX HOOK",
    "dU WITH HORNbSMALL LETTER U WITH HORNbCAPITAL LETTER UPSILONdV WITH HOOKdY WITH HOOK",
    "bSMALL LETTER Y WITH HOOKbCAPITAL LETTER Z WITH STROKEbSMALL LETTER Z WITH STROKE",
    "bCAPITAL LETTER EZHdEZH REVERSEDbSMALL LETTER EZH REVERSEDeWITH TAILbLETTER TWO WITH STROKE",
    "bCAPITAL LETTER TONE FIVEbSMALL LETTER TONE FIVEbLETTER INVERTED GLOTTAL STOP WITH STROKE",
    "cWYNNcDENTAL CLICKcLATERAL CLICKcALVEOLAR CLICKcRETROFLEX CLICK",
    "bCAPITAL LETTER DZ WITH CARONdD WITH SMALL LETTER Z WITH CARONbSMALL LETTER DZ WITH CARON",
    "bCAPITAL LETTER LJdL WITH SMALL LETTER JbSMALL LETTER LJbCAPITAL LETTER NJ",
    "dN WITH SMALL LETTER JbSMALL LETTER NJbCAPITAL LETTER A WITH CARON",
    "bSMALL LETTER A WITH CARONbCAPITAL LETTER I WITH CARONbSMALL LETTER I WITH CARON",
    "bCAPITAL LETTER O WITH CARONbSMALL LETTER O WITH CARONbCAPITAL LETTER U WITH CARON",
    "bSMALL LETTER U WITH CARONbCAPITAL LETTER U WITH DIAERESIS AND MACRON",
    "bSMALL LETTER U WITH DIAERESIS AND MACRONbCAPITAL LETTER U WITH DIAERESIS AND ACUTE",
    "bSMALL LETTER U WITH DIAERESIS AND ACUTEbCAPITAL LETTER U WITH DIAERESIS AND CARON",
    "bSMALL LETTER U WITH DIAERESIS AND CARONbCAPITAL LETTER U WITH DIAERESIS AND GRAVE",
    "bSMALL LETTER U WITH DIAERESIS AND GRAVEdTURNED E",
    "bCAPITAL LETTER A WITH DIAERESIS AND MACRONbSMALL LETTER A WITH DIAERESIS AND MACRON",
    "bCAPITAL LETTER A WITH DOT ABOVE AND MACRONbSMALL LETTER A WITH DOT ABOVE AND MACRON",
    "bCAPITAL LETTER AE WITH MACRONbSMALL LETTER AE WITH MACRONbCAPITAL LETTER G WITH STROKE",
    "bSMALL LETTER G WITH STROKEbCAPITAL LETTER G WITH CARONbSMALL LETTER G WITH CARON",
    "bCAPITAL LETTER K WITH CARONbSMALL LETTER K WITH CARONbCAPITAL LETTER O WITH OGONEK",
    "bSMALL LETTER O WITH OGONEKbCAPITAL LETTER O WITH OGONEK AND MACRON",
    "bSMALL LETTER O WITH OGONEK AND MACRONbCAPITAL LETTER EZH WITH CARON",
    "bSMALL LETTER EZH WITH CARONdJ WITH CARONbCAPITAL LETTER DZdD WITH SMALL LETTER Z",
    "bSMALL LETTER DZbCAPITAL LETTER G WITH ACUTEbSMALL LETTER G WITH ACUTEbCAPITAL LETTER HWAIR",
    "dWYNNdN WITH GRAVEbSMALL LETTER N WITH GRAVEbCAPITAL LETTER A WITH RING ABOVE AND ACUTE",
    "bSMALL LETTER A WITH RING ABOVE AND ACUTEbCAPITAL LETTER AE WITH ACUTE",
    "bSMALL LETTER AE WITH ACUTEbCAPITAL LETTER O WITH STROKE AND ACUTE",
    "bSMALL LETTER O WITH STROKE AND ACUTE"]⟩,
  ⟨0x200, [
    "aLATIN CAPITAL LETTER A WITH DOUBLE GRAVEbSMALL LETTER A WITH DOUBLE GRAVE",
    "bCAPITAL LETTER A WITH INVERTED BREVEbSMALL LETTER A WITH INVERTED BREVE",
    "bCAPITAL LETTER E WITH DOUBLE GRAVEbSMALL LETTER E WITH DOUBLE GRAVE",
    "bCAPITAL LETTER E WITH INVERTED BREVEbSMALL LETTER E WITH INVERTED BREVE",
    "bCAPITAL LETTER I WITH DOUBLE GRAVEbSMALL LETTER I WITH DOUBLE GRAVE",
    "bCAPITAL LETTER I WITH INVERTED BREVEbSMALL LETTER I WITH INVERTED BREVE",
    "bCAPITAL LETTER O WITH DOUBLE GRAVEbSMALL LETTER O WITH DOUBLE GRAVE",
    "bCAPITAL LETTER O WITH INVERTED BREVEbSMALL LETTER O WITH INVERTED BREVE",
    "bCAPITAL LETTER R WITH DOUBLE GRAVEbSMALL LETTER R WITH DOUBLE GRAVE",
    "bCAPITAL LETTER R WITH INVERTED BREVEbSMALL LETTER R WITH INVERTED BREVE",
    "bCAPITAL LETTER U WITH DOUBLE GRAVEbSMALL LETTER U WITH DOUBLE GRAVE",
    "bCAPITAL LETTER U WITH INVERTED BREVEbSMALL LETTER U WITH INVERTED BREVE",
    "bCAPITAL LETTER S WITH COMMA BELOWbSMALL LETTER S WITH COMMA BELOW",
    "bCAPITAL LETTER T WITH COMMA BELOWbSMALL LETTER T WITH COMMA BELOWbCAPITAL LETTER YOGH",
    "bSMALL LETTER YOGHbCAPITAL LETTER H WITH CARONbSMALL LETTER H WITH CARON",
    "bCAPITAL LETTER N WITH LONG RIGHT LEGbSMALL LETTER D WITH CURLbCAPITAL LETTER OU",
    "bSMALL LETTER OUbCAPITAL LETTER Z WITH HOOKbSMALL LETTER Z WITH HOOK",
    "bCAPITAL LETTER A WITH DOT ABOVEbSMALL LETTER A WITH DOT ABOVE",
    "bCAPITAL LETTER E WITH CEDILLAbSMALL LETTER E WITH CEDILLA",
    "bCAPITAL LETTER O WITH DIAERESIS AND MACRONbSMALL LETTER O WITH DIAERESIS AND MACRON",
    "bCAPITAL LETTER O WITH TILDE AND MACRONbSMALL LETTER O WITH TILDE AND MACRON",
    "bCAPITAL LETTER O WITH DOT ABOVEbSMALL LETTER O WITH DOT ABOVE",
    "bCAPITAL LETTER O WITH DOT ABOVE AND MACRONbSMALL LETTER O WITH DOT ABOVE AND MACRON",
    "bCAPITAL LETTER Y WITH MACRONbSMALL LETTER Y WITH MACRONdL WITH CURLdN WITH CURL",
    "dT WITH CURLdDOTLESS JdDB DIGRAPHdQP DIGRAPHbCAPITAL LETTER A WITH STROKEdC WITH STROKE",
    "bSMALL LETTER C WITH STROKEbCAPITAL LETTER L WITH BARdT WITH DIAGONAL STROKE",
    "bSMALL LETTER S WITH SWASH TAILdZ WITH SWASH TAILbCAPITAL LETTER GLOTTAL STOP",
    "bSMALL LETTER GLOTTAL STOPbCAPITAL LETTER B WITH STROKEdU BARdTURNED VdE WITH STROKE",
    "bSMALL LETTER E WITH STROKEbCAPITAL LETTER J WITH STROKEbSMALL LETTER J WITH STROKE",
    "bCAPITAL LETTER SMALL Q WITH HOOK TAILbSMALL LETTER Q WITH HOOK TAIL",
    "bCAPITAL LETTER R WITH STROKEbSMALL LETTER R WITH STROKEbCAPITAL LETTER Y WITH STROKE",
    "bSMALL LETTER Y WITH STROKEdTURNED AdALPHAdTURNED ALPHAdB WITH HOOKdOPEN OdC WITH CURL",
    "dD WITH TAILfHOOKdREVERSED EdSCHWAdSCHWA WITH HOOKdOPEN EdREVERSED OPEN EfE WITH HOOK",
    "dCLOSED REVERSED OPEN EdDOTLESS J WITH STROKEdG WITH HOOKdSCRIPT GbLETTER SMALL CAPITAL G",
    "bSMALL LETTER GAMMAdRAMS HORNdTURNED HdH WITH HOOKdHENG WITH HOOKdI WITH STROKEdIOTA",
    "bLETTER SMALL CAPITAL IbSMALL LETTER L WITH MIDDLE TILDEfBELTfRETROFLEX HOOKdLEZHdTURNED M",
    "eM WITH LONG LEGdM WITH HOOKdN WITH LEFT HOOKfRETROFLEX HOOKbLETTER SMALL CAPITAL N",
    "bSMALL LETTER BARRED ObLETTER SMALL CAPITAL OEbSMALL LETTER CLOSED OMEGAdPHIdTURNED R",
    "eR WITH LONG LEGgHOOKdR WITH LONG LEGfTAILfFISHHOOKdREVERSED R WITH FISHHOOK",
    "bLETTER SMALL CAPITAL ReINVERTED RbSMALL LETTER S WITH HOOKdESH",
    "dDOTLESS J WITH STROKE AND HOOKdSQUAT REVERSED ESHdESH WITH CURLdTURNED T",
    "dT WITH RETROFLEX HOOKdU BARdUPSILONdV WITH HOOKdTURNED VeWeYbLETTER SMALL CAPITAL Y",
    "bSMALL LETTER Z WITH RETROFLEX HOOKfCURLdEZHdEZH WITH CURLbLETTER GLOTTAL STOP",
    "cPHARYNGEAL VOICED FRICATIVEcINVERTED GLOTTAL STOPcSTRETCHED CcBILABIAL CLICK",
    "cSMALL CAPITAL BbSMALL LETTER CLOSED OPEN EbLETTER SMALL CAPITAL G WITH HOOKeH",
    "bSMALL LETTER J WITH CROSSED-TAILdTURNED KbLETTER SMALL CAPITAL LbSMALL LETTER Q WITH HOOK",
    "bLETTER GLOTTAL STOP WITH STROKEcREVERSED GLOTTAL STOP WITH STROKEbSMALL LETTER DZ DIGRAPH",
    "dDEZH DIGRAPHdDZ DIGRAPH WITH CURLdTS DIGRAPHdTESH DIGRAPHdTC DIGRAPH WITH CURL",
    "dFENG DIGRAPHdLS DIGRAPHdLZ DIGRAPHbLETTER BILABIAL PERCUSSIVEcBIDENTAL PERCUSSIVE",
    "bSMALL LETTER TURNED H WITH FISHHOOKgFISHHOOK AND TAILaMODIFIER LETTER SMALL HdH WITH HOOK",
    "dJdRdTURNED ReR WITH HOOKdCAPITAL INVERTED RdWdYcPRIMEcDOUBLE PRIMEcTURNED COMMAcAPOSTROPHE",
    "cREVERSED COMMAcRIGHT HALF RINGcLEFT HALF RINGcGLOTTAL STOPcREVERSED GLOTTAL STOP",
    "cLEFT ARROWHEADcRIGHT ARROWHEADcUP ARROWHEADcDOWN ARROWHEADcCIRCUMFLEX ACCENTaCARON",
    "aMODIFIER LETTER VERTICAL LINEcMACRONcACUTE ACCENTcGRAVE ACCENTcLOW VERTICAL LINEdMACRON",
    "dGRAVE ACCENTdACUTE ACCENTcTRIANGULAR COLONcHALF TRIANGULAR COLONcCENTRED RIGHT HALF RING",
    "dLEFT HALF RINGcUP TACKcDOWN TACKcPLUS SIGNcMINUS SIGNaBREVEaDOT ABOVEaRING ABOVEaOGONEK",
    "aSMALL TILDEaDOUBLE ACUTE ACCENTaMODIFIER LETTER RHOTIC HOOKcCROSS ACCENTcSMALL GAMMAdLdSdX",
    "dREVERSED GLOTTAL STOPcEXTRA-HIGH TONE BARcHIGH TONE BARcMID TONE BARcLOW TONE BAR",
    "cEXTRA-LOW TONE BARcYIN DEPARTING TONE MARKcYANG DEPARTING TONE MARKcVOICINGcUNASPIRATED",
    "cDOUBLE APOSTROPHEcLOW DOWN ARROWHEADdUP ARROWHEADdLEFT ARROWHEADdRIGHT ARROWHEADdRING",
    "cMIDDLE GRAVE ACCENTdDOUBLE GRAVE ACCENTeACUTE ACCENTcLOW TILDEcRAISED COLON",
    "cBEGIN HIGH TONEcEND HIGH TONEcBEGIN LOW TONEcEND LOW TONEcSHELFcOPEN SHELFcLOW LEFT ARROW"]⟩,
  ⟨0x300, [
    "aCOMBINING GRAVE ACCENTbACUTE ACCENTbCIRCUMFLEX ACCENTbTILDEbMACRONbOVERLINEbBREVE",
    "bDOT ABOVEbDIAERESISbHOOK ABOVEbRING ABOVEbDOUBLE ACUTE ACCENTbCARONbVERTICAL LINE ABOVE",
    "bDOUBLE VERTICAL LINE ABOVEcGRAVE ACCENTbCANDRABINDUbINVERTED BREVEbTURNED COMMA ABOVE",
    "bCOMMA ABOVEbREVERSED COMMA ABOVEbCOMMA ABOVE RIGHTbGRAVE ACCENT BELOWbACUTE ACCENT BELOW",
    "bLEFT TACK BELOWbRIGHT TACK BELOWbLEFT ANGLE ABOVEbHORNbLEFT HALF RING BELOWbUP TACK BELOW",
    "bDOWN TACK BELOWbPLUS SIGN BELOWbMINUS SIGN BELOWbPALATALIZED HOOK BELOW",
    "bRETROFLEX HOOK BELOWbDOT BELOWbDIAERESIS BELOWbRING BELOWbCOMMA BELOWbCEDILLAbOGONEK",
    "bVERTICAL LINE BELOWbBRIDGE BELOWbINVERTED DOUBLE ARCH BELOWbCARON BELOW",
    "bCIRCUMFLEX ACCENT BELOWbBREVE BELOWbINVERTED BREVE BELOWbTILDE BELOWbMACRON BELOWbLOW LINE",
    "bDOUBLE LOW LINEbTILDE OVERLAYbSHORT STROKE OVERLAYbLONG STROKE OVERLAY",
    "bSHORT SOLIDUS OVERLAYbLONG SOLIDUS OVERLAYbRIGHT HALF RING BELOWbINVERTED BRIDGE BELOW",
    "bSQUARE BELOWbSEAGULL BELOWbX ABOVEbVERTICAL TILDEbDOUBLE OVERLINEbGRAVE TONE MARK",
    "bACUTE TONE MARKbGREEK PERISPOMENIcKORONIScDIALYTIKA TONOScYPOGEGRAMMENIbBRIDGE ABOVE",
    "bEQUALS SIGN BELOWbDOUBLE VERTICAL LINE BELOWbLEFT ANGLE BELOWbNOT TILDE ABOVE",
    "bHOMOTHETIC ABOVEbALMOST EQUAL TO ABOVEbLEFT RIGHT ARROW BELOWbUPWARDS ARROW BELOW",
    "bGRAPHEME JOINERbRIGHT ARROWHEAD ABOVEbLEFT HALF RING ABOVEbFERMATAbX BELOW",
    "bLEFT ARROWHEAD BELOWbRIGHT ARROWHEAD BELOWdAND UP ARROWHEAD BELOWcHALF RING ABOVE",
    "bDOT ABOVE RIGHTbASTERISK BELOWbDOUBLE RING BELOWbZIGZAG ABOVEbDOUBLE BREVE BELOWcBREVE",
    "cMACRONcMACRON BELOWcTILDEcINVERTED BREVEcRIGHTWARDS ARROW BELOWbLATIN SMALL LETTER AeEeIeO",
    "eUeCeDeHeMeReTeVeXaGREEK CAPITAL LETTER HETAbSMALL LETTER HETAbCAPITAL LETTER ARCHAIC SAMPI",
    "bSMALL LETTER ARCHAIC SAMPIbNUMERAL SIGNbLOWER NUMERAL SIGN",
    "bCAPITAL LETTER PAMPHYLIAN DIGAMMAbSMALL LETTER PAMPHYLIAN DIGAMMA..bYPOGEGRAMMENI",
    "bSMALL REVERSED LUNATE SIGMA SYMBOLcDOTTED LUNATE SIGMA SYMBOL",
    "cREVERSED DOTTED LUNATE SIGMA SYMBOLbQUESTION MARKbCAPITAL LETTER YOT....bTONOS",
    "bDIALYTIKA TONOSbCAPITAL LETTER ALPHA WITH TONOSbANO TELEIA",
    "bCAPITAL LETTER EPSILON WITH TONOSdETA WITH TONOSdIOTA WITH TONOS.dOMICRON WITH TONOS.",
    "dUPSILON WITH TONOSdOMEGA WITH TONOSbSMALL LETTER IOTA WITH DIALYTIKA AND TONOS",
    "bCAPITAL LETTER ALPHAdBETAdGAMMAdDELTAdEPSILONdZETAdETAdTHETAdIOTAdKAPPAdLAMDAdMUdNUdXI",
    "dOMICRONdPIdRHO.dSIGMAdTAUdUPSILONdPHIdCHIdPSIdOMEGAdIOTA WITH DIALYTIKA",
    "dUPSILON WITH DIALYTIKAbSMALL LETTER ALPHA WITH TONOSdEPSILON WITH TONOSdETA WITH TONOS",
    "dIOTA WITH TONOSdUPSILON WITH DIALYTIKA AND TONOSdALPHAdBETAdGAMMAdDELTAdEPSILONdZETAdETA",
    "dTHETAdIOTAdKAPPAdLAMDAdMUdNUdXIdOMICRONdPIdRHOdFINAL SIGMAdSIGMAdTAUdUPSILONdPHIdCHIdPSI",
    "dOMEGAdIOTA WITH DIALYTIKAdUPSILON WITH DIALYTIKAdOMICRON WITH TONOSdUPSILON WITH TONOS",
    "dOMEGA WITH TONOSbCAPITAL KAI SYMBOLbBETA SYMBOLbTHETA SYMBOLbUPSILON WITH HOOK SYMBOL",
    "dACUTE AND HOOK SYMBOLdDIAERESIS AND HOOK SYMBOLbPHI SYMBOLbPI SYMBOLbKAI SYMBOL",
    "bLETTER ARCHAIC KOPPAbSMALL LETTER ARCHAIC KOPPAbLETTER STIGMAbSMALL LETTER STIGMA",
    "bLETTER DIGAMMAbSMALL LETTER DIGAMMAbLETTER KOPPAbSMALL LETTER KOPPAbLETTER SAMPI",
    "bSMALL LETTER SAMPIaCOPTIC CAPITAL LETTER SHEIbSMALL LETTER SHEIbCAPITAL LETTER FEI",
    "bSMALL LETTER FEIbCAPITAL LETTER KHEIbSMALL LETTER KHEIbCAPITAL LETTER HORI",
    "bSMALL LETTER HORIbCAPITAL LETTER GANGIAbSMALL LETTER GANGIAbCAPITAL LETTER SHIMA",
    "bSMALL LETTER SHIMAbCAPITAL LETTER DEIbSMALL LETTER DEIaGREEK KAPPA SYMBOLbRHO SYMBOL",
    "bLUNATE SIGMA SYMBOLbLETTER YOTbCAPITAL THETA SYMBOLbLUNATE EPSILON SYMBOL",
    "bREVERSED LUNATE EPSILON SYMBOLbCAPITAL LETTER SHObSMALL LETTER SHO",
    "bCAPITAL LUNATE SIGMA SYMBOLcLETTER SANbSMALL LETTER SANbRHO WITH STROKE SYMBOL",
    "bCAPITAL REVERSED LUNATE SIGMA SYMBOLcDOTTED LUNATE SIGMA SYMBOL",
    "cREVERSED DOTTED LUNATE SIGMA SYMBOL"]⟩,
  ⟨0x400, [
    "aCYRILLIC CAPITAL LETTER IE WITH GRAVEdIOdDJEdGJEdUKRAINIAN IEdDZEdBYELORUSSIAN-UKRAINIAN I",
    "dYIdJEdLJEdNJEdTSHEdKJEdI WITH GRAVEdSHORT UdDZHEdAdBEdVEdGHEdDEdIEdZHEdZEdIdSHORT IdKAdEL",
    "dEMdENdOdPEdERdESdTEdUdEFdHAdTSEdCHEdSHAdSHCHAdHARD SIGNdYERUdSOFT SIGNdEdYUdYA",
    "bSMALL LETTER AdBEdVEdGHEdDEdIEdZHEdZEdIdSHORT IdKAdELdEMdENdOdPEdERdESdTEdUdEFdHAdTSEdCHE",
    "dSHAdSHCHAdHARD SIGNdYERUdSOFT SIGNdEdYUdYAdIE WITH GRAVEdIOdDJEdGJEdUKRAINIAN IEdDZE",
    "dBYELORUSSIAN-UKRAINIAN IdYIdJEdLJEdNJEdTSHEdKJEdI WITH GRAVEdSHORT UdDZHE",
    "bCAPITAL LETTER OMEGAbSMALL LETTER OMEGAbCAPITAL LETTER YATbSMALL LETTER YAT",
    "bCAPITAL LETTER IOTIFIED EbSMALL LETTER IOTIFIED EbCAPITAL LETTER LITTLE YUS",
    "bSMALL LETTER LITTLE YUSbCAPITAL LETTER IOTIFIED LITTLE YUS",
    "bSMALL LETTER IOTIFIED LITTLE YUSbCAPITAL LETTER BIG YUSbSMALL LETTER BIG YUS",
    "bCAPITAL LETTER IOTIFIED BIG YUSbSMALL LETTER IOTIFIED BIG YUSbCAPITAL LETTER KSI",
    "bSMALL LETTER KSIbCAPITAL LETTER PSIbSMALL LETTER PSIbCAPITAL LETTER FITAbSMALL LETTER FITA",
    "bCAPITAL LETTER IZHITSAbSMALL LETTER IZHITSA",
    "bCAPITAL LETTER IZHITSA WITH DOUBLE GRAVE ACCENT",
    "bSMALL LETTER IZHITSA WITH DOUBLE GRAVE ACCENTbCAPITAL LETTER UKbSMALL LETTER UK",
    "bCAPITAL LETTER ROUND OMEGAbSMALL LETTER ROUND OMEGAbCAPITAL LETTER OMEGA WITH TITLO",
    "bSMALL LETTER OMEGA WITH TITLObCAPITAL LETTER OTbSMALL LETTER OTbCAPITAL LETTER KOPPA",
    "bSMALL LETTER KOPPAbTHOUSANDS SIGNaCOMBINING CYRILLIC TITLOcPALATALIZATIONcDASIA PNEUMATA",
    "cPSILI PNEUMATAcPOKRYTIEcHUNDRED THOUSANDS SIGNcMILLIONS SIGN",
    "aCYRILLIC CAPITAL LETTER SHORT I WITH TAILbSMALL LETTER SHORT I WITH TAIL",
    "bCAPITAL LETTER SEMISOFT SIGNbSMALL LETTER SEMISOFT SIGNbCAPITAL LETTER ER WITH TICK",
    "bSMALL LETTER ER WITH TICKbCAPITAL LETTER GHE WITH UPTURNbSMALL LETTER GHE WITH UPTURN",
    "bCAPITAL LETTER GHE WITH STROKEbSMALL LETTER GHE WITH STROKE",
    "bCAPITAL LETTER GHE WITH MIDDLE HOOKbSMALL LETTER GHE WITH MIDDLE HOOK",
    "bCAPITAL LETTER ZHE WITH DESCENDERbSMALL LETTER ZHE WITH DESCENDER",
    "bCAPITAL LETTER ZE WITH DESCENDERbSMALL LETTER ZE WITH DESCENDER",
    "bCAPITAL LETTER KA WITH DESCENDERbSMALL LETTER KA WITH DESCENDER",
    "bCAPITAL LETTER KA WITH VERTICAL STROKEbSMALL LETTER KA WITH VERTICAL STROKE",
    "bCAPITAL LETTER KA WITH STROKEbSMALL LETTER KA WITH STROKEbCAPITAL LETTER BASHKIR KA",
    "bSMALL LETTER BASHKIR KAbCAPITAL LETTER EN WITH DESCENDERbSMALL LETTER EN WITH DESCENDER",
    "bCAPITAL LIGATURE EN GHEbSMALL LIGATURE EN GHEbCAPITAL LETTER PE WITH MIDDLE HOOK",
    "bSMALL LETTER PE WITH MIDDLE HOOKbCAPITAL LETTER ABKHASIAN HAbSMALL LETTER ABKHASIAN HA",
    "bCAPITAL LETTER ES WITH DESCENDERbSMALL LETTER ES WITH DESCENDER",
    "bCAPITAL LETTER TE WITH DESCENDERbSMALL LETTER TE WITH DESCENDERbCAPITAL LETTER STRAIGHT U",
    "bSMALL LETTER STRAIGHT UbCAPITAL LETTER STRAIGHT U WITH STROKE",
    "bSMALL LETTER STRAIGHT U WITH STROKEbCAPITAL LETTER HA WITH DESCENDER",
    "bSMALL LETTER HA WITH DESCENDERbCAPITAL LIGATURE TE TSEbSMALL LIGATURE TE TSE",
    "bCAPITAL LETTER CHE WITH DESCENDERbSMALL LETTER CHE WITH DESCENDER",
    "bCAPITAL LETTER CHE WITH VERTICAL STROKEbSMALL LETTER CHE WITH VERTICAL STROKE",
    "bCAPITAL LETTER SHHAbSMALL LETTER SHHAbCAPITAL LETTER ABKHASIAN CHE",
    "bSMALL LETTER ABKHASIAN CHEbCAPITAL LETTER ABKHASIAN CHE WITH DESCENDER",
    "bSMALL LETTER ABKHASIAN CHE WITH DESCENDERbLETTER PALOCHKAbCAPITAL LETTER ZHE WITH BREVE",
    "bSMALL LETTER ZHE WITH BREVEbCAPITAL LETTER KA WITH HOOKbSMALL LETTER KA WITH HOOK",
    "bCAPITAL LETTER EL WITH TAILbSMALL LETTER EL WITH TAILbCAPITAL LETTER EN WITH HOOK",
    "bSMALL LETTER EN WITH HOOKbCAPITAL LETTER EN WITH TAILbSMALL LETTER EN WITH TAIL",
    "bCAPITAL LETTER KHAKASSIAN CHEbSMALL LETTER KHAKASSIAN CHEbCAPITAL LETTER EM WITH TAIL",
    "bSMALL LETTER EM WITH TAILdPALOCHKAbCAPITAL LETTER A WITH BREVEbSMALL LETTER A WITH BREVE",
    "bCAPITAL LETTER A WITH DIAERESISbSMALL LETTER A WITH DIAERESISbCAPITAL LIGATURE A IE",
    "bSMALL LIGATURE A IEbCAPITAL LETTER IE WITH BREVEbSMALL LETTER IE WITH BREVE",
    "bCAPITAL LETTER SCHWAbSMALL LETTER SCHWAbCAPITAL LETTER SCHWA WITH DIAERESIS",
    "bSMALL LETTER SCHWA WITH DIAERESISbCAPITAL LETTER ZHE WITH DIAERESIS",
    "bSMALL LETTER ZHE WITH DIAERESISbCAPITAL LETTER ZE WITH DIAERESIS",
    "bSMALL LETTER ZE WITH DIAERESISbCAPITAL LETTER ABKHASIAN DZEbSMALL LETTER ABKHASIAN DZE",
    "bCAPITAL LETTER I WITH MACRONbSMALL LETTER I WITH MACRONbCAPITAL LETTER I WITH DIAERESIS",
    "bSMALL LETTER I WITH DIAERESISbCAPITAL LETTER O WITH DIAERESIS",
    "bSMALL LETTER O WITH DIAERESISbCAPITAL LETTER BARRED ObSMALL LETTER BARRED O",
    "bCAPITAL LETTER BARRED O WITH DIAERESISbSMALL LETTER BARRED O WITH DIAERESIS",
    "bCAPITAL LETTER E WITH DIAERESISbSMALL LETTER E WITH DIAERESISbCAPITAL LETTER U WITH MACRON",
    "bSMALL LETTER U WITH MACRONbCAPITAL LETTER U WITH DIAERESISbSMALL LETTER U WITH DIAERESIS",
    "bCAPITAL LETTER U WITH DOUBLE ACUTEbSMALL LETTER U WITH DOUBLE ACUTE",
    "bCAPITAL LETTER CHE WITH DIAERESISbSMALL LETTER CHE WITH DIAERESIS",
    "bCAPITAL LETTER GHE WITH DESCENDERbSMALL LETTER GHE WITH DESCENDER",
    "bCAPITAL LETTER YERU WITH DIAERESISbSMALL LETTER YERU WITH DIAERESIS",
    "bCAPITAL LETTER GHE WITH STROKE AND HOOKbSMALL LETTER GHE WITH STROKE AND HOOK",
    "bCAPITAL LETTER HA WITH HOOKbSMALL LETTER HA WITH HOOKbCAPITAL LETTER HA WITH STROKE",
    "bSMALL LETTER HA WITH STROKE"]⟩,
  ⟨0x500, [
    "aCYRILLIC CAPITAL LETTER KOMI DEbSMALL LETTER KOMI DEbCAPITAL LETTER KOMI DJE",
    "bSMALL LETTER KOMI DJEbCAPITAL LETTER KOMI ZJEbSMALL LETTER KOMI ZJE",
    "bCAPITAL LETTER KOMI DZJEbSMALL LETTER KOMI DZJEbCAPITAL LETTER KOMI LJE",
    "bSMALL LETTER KOMI LJEbCAPITAL LETTER KOMI NJEbSMALL LETTER KOMI NJE",
    "bCAPITAL LETTER KOMI SJEbSMALL LETTER KOMI SJEbCAPITAL LETTER KOMI TJE",
    "bSMALL LETTER KOMI TJEbCAPITAL LETTER REVERSED ZEbSMALL LETTER REVERSED ZE",
    "bCAPITAL LETTER EL WITH HOOKbSMALL LETTER EL WITH HOOKbCAPITAL LETTER LHAbSMALL LETTER LHA",
    "bCAPITAL LETTER RHAbSMALL LETTER RHAbCAPITAL LETTER YAEbSMALL LETTER YAEbCAPITAL LETTER QA",
    "bSMALL LETTER QAbCAPITAL LETTER WEbSMALL LETTER WEbCAPITAL LETTER ALEUT KA",
    "bSMALL LETTER ALEUT KAbCAPITAL LETTER EL WITH MIDDLE HOOKbSMALL LETTER EL WITH MIDDLE HOOK",
    "bCAPITAL LETTER EN WITH MIDDLE HOOKbSMALL LETTER EN WITH MIDDLE HOOK",
    "bCAPITAL LETTER PE WITH DESCENDERbSMALL LETTER PE WITH DESCENDER",
    "bCAPITAL LETTER SHHA WITH DESCENDERbSMALL LETTER SHHA WITH DESCENDER",
    "bCAPITAL LETTER EN WITH LEFT HOOKbSMALL LETTER EN WITH LEFT HOOKbCAPITAL LETTER DZZHE",
    "bSMALL LETTER DZZHEbCAPITAL LETTER DCHEbSMALL LETTER DCHEbCAPITAL LETTER EL WITH DESCENDER",
    "bSMALL LETTER EL WITH DESCENDER.aARMENIAN CAPITAL LETTER AYBdBENdGIMdDAdECHdZAdEHdETdTOdZHE",
    "dINIdLIWNdXEHdCAdKENdHOdJAdGHADdCHEHdMENdYIdNOWdSHAdVOdCHAdPEHdJHEHdRAdSEHdVEWdTIWNdREHdCO",
    "dYIWNdPIWRdKEHdOHdFEH..bMODIFIER LETTER LEFT HALF RINGbAPOSTROPHEbEMPHASIS MARK",
    "bEXCLAMATION MARKbCOMMAbQUESTION MARKbABBREVIATION MARKbSMALL LETTER TURNED AYBdAYBdBENdGIM",
    "dDAdECHdZAdEHdETdTOdZHEdINIdLIWNdXEHdCAdKENdHOdJAdGHADdCHEHdMENdYIdNOWdSHAdVOdCHAdPEHdJHEH",
    "dRAdSEHdVEWdTIWNdREHdCOdYIWNdPIWRdKEHdOHdFEHcLIGATURE ECH YIWNcLETTER YI WITH STROKE",
    "bFULL STOPbHYPHEN..aRIGHT-FACING ARMENIAN ETERNITY SIGNaLEFT-FACING ARMENIAN ETERNITY SIGN",
    "aARMENIAN DRAM SIGN.aHEBREW ACCENT ETNAHTAcSEGOLcSHALSHELETcZAQEF QATANdGADOLcTIPEHAcREVIA",
    "cZARQAcPASHTAcYETIVcTEVIRcGERESHcGERESH MUQDAMcGERSHAYIMcQARNEY PARAcTELISHA GEDOLAcPAZER",
    "cATNAH HAFUKHcMUNAHcMAHAPAKHcMERKHAcMERKHA KEFULAcDARGAcQADMAcTELISHA QETANAcYERAH BEN YOMO",
    "cOLEcILUYcDEHIcZINORbMARK MASORA CIRCLEbPOINT SHEVAcHATAF SEGOLdPATAHdQAMATScHIRIQcTSERE",
    "cSEGOLcPATAHcQAMATScHOLAMcHOLAM HASER FOR VAVcQUBUTScDAGESH OR MAPIQcMETEG",
    "bPUNCTUATION MAQAFbPOINT RAFEbPUNCTUATION PASEQbPOINT SHIN DOTcSIN DOT",
    "bPUNCTUATION SOF PASUQbMARK UPPER DOTcLOWER DOTbPUNCTUATION NUN HAFUKHAbPOINT QAMATS QATAN.",
    ".......bLETTER ALEFcBETcGIMELcDALETcHEcVAVcZAYINcHETcTETcYODcFINAL KAFcKAFcLAMEDcFINAL MEM",
    "cMEMcFINAL NUNcNUNcSAMEKHcAYINcFINAL PEcPEcFINAL TSADIcTSADIcQOFcRESHcSHINcTAV....",
    "bYOD TRIANGLEbLIGATURE YIDDISH DOUBLE VAVdVAV YODdDOUBLE YODbPUNCTUATION GERESHcGERSHAYIM"]⟩]

end LogHarvest.Text.Table
